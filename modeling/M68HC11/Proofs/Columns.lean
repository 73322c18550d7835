import M68HC11.Proofs.Layout

/-!
Columns in which all characters are ASCII.

* `Text.exists_append_of_ascii`: ASCII bytes in front of a line stand for as many
  characters, and `Text.ascii_of_fieldText` says which bytes those are;
* `Text.field?_of_ascii`: columns of ASCII characters are a field exactly if the
  line has them all.
-/

namespace M68HC11.Text

/-- A field is what stands in its columns. -/
lemma eq_of_field? {line field : List UInt8} {start width : ℕ}
    (h : field? line start width = some field) : field = (line.drop start).take width := by
  rw [field?] at h
  split at h
  · exact (Option.some.inj h).symm
  · cases h

/-- A byte is read as the character with its code. -/
lemma toNat_ofNat_byte (b : UInt8) : (Char.ofNat b.toNat).toNat = b.toNat := by
  have hvalid : b.toNat.isValidChar := .inl (Nat.lt_trans b.toNat_lt (by decide))
  rw [Char.ofNat, dif_pos hvalid]
  rfl

/-- A field that is read as ASCII text has ASCII bytes. -/
lemma ascii_of_fieldText {field : List UInt8} (h : ∀ c ∈ fieldText field, c.toNat < 0x80) :
    ∀ b ∈ field, b.toNat < 0x80 := by
  intro b hb
  have hc := h _ (List.mem_map_of_mem hb)
  rwa [toNat_ofNat_byte] at hc

/-- ASCII bytes in front of a line stand for as many characters. -/
lemma exists_append_of_ascii {text : List Char} {width : ℕ}
    (hwidth : ((encode text).take width).length = width)
    (hascii : ∀ b ∈ (encode text).take width, b.toNat < 0x80) :
    ∃ front rest, text = front ++ rest ∧ front.length = width ∧ ∀ c ∈ front, c.toNat < 0x80 := by
  induction width generalizing text with
  | zero => exact ⟨[], text, rfl, rfl, List.forall_mem_nil _⟩
  | succ width ih =>
      cases text with
      | nil => simp [encode] at hwidth
      | cons c text =>
          obtain ⟨hc, -⟩ | ⟨b, bs, hseveral, hlarge⟩ := utf8EncodeChar_cases c
          · rw [encode_cons hc, List.take_succ_cons] at hwidth hascii
            obtain ⟨front, rest, rfl, hlength, hfront⟩ :=
              ih (Nat.succ.inj hwidth) (List.forall_mem_cons.mp hascii).2
            exact ⟨c :: front, rest, rfl, congrArg Nat.succ hlength,
              List.forall_mem_cons.mpr ⟨hc, hfront⟩⟩
          · rw [encode, List.flatMap_cons, hseveral] at hascii
            have hsmall := (List.forall_mem_cons.mp hascii).1
            omega

/-- Columns of ASCII characters are a field exactly if the line has them all. -/
lemma field?_of_ascii {text : List Char} {start width : ℕ}
    (h : ∀ c ∈ text.take (start + width), c.toNat < 0x80) :
    field? (encode text) start width =
      if start + width ≤ text.length then some (encode ((text.drop start).take width))
      else none := by
  split
  · next hle =>
    have htext : text.take start ++ ((text.drop start).take width ++ text.drop (start + width)) =
        text := by
      rw [← List.append_assoc, ← List.take_add, List.take_append_drop]
    rw [List.take_add] at h
    obtain ⟨hfront, hfield⟩ := List.forall_mem_append.mp h
    have hstart : (encode (text.take start)).length = start := by
      rw [length_encode hfront, List.length_take]
      omega
    have hwidth : (encode ((text.drop start).take width)).length = width := by
      rw [length_encode hfield, List.length_take, List.length_drop]
      omega
    have hread := field?_encode (text.take start) ((text.drop start).take width)
      (text.drop (start + width))
    rwa [htext, hstart, hwidth] at hread
  · next hlt =>
    rw [List.take_of_length_le (by omega)] at h
    have hnone : (encode text)[start + width]? = none := by
      rw [List.getElem?_eq_none_iff, length_encode h]
      omega
    have hend : startsCharacter (encode text) (start + width) = false := by
      rw [startsCharacter, hnone, length_encode h]
      simp
      omega
    rw [field?, hend, Bool.and_false]
    rfl

/-- Two ASCII characters in front of the encoded form are in front of the text. -/
lemma prefix_of_encode {text : List Char} {c d : Char} (hc : c.toNat < 0x80) (hd : d.toNat < 0x80)
    (hfirst : (encode text)[0]? = some (UInt8.ofNat c.toNat))
    (hsecond : (encode text)[1]? = some (UInt8.ofNat d.toNat)) : [c, d] <+: text := by
  rw [← List.head?_eq_getElem?] at hfirst
  obtain ⟨tail, rfl⟩ := List.head?_eq_some_iff.mp (head?_of_head?_encode hc hfirst)
  rw [encode_cons hc, List.getElem?_cons_succ, ← List.head?_eq_getElem?] at hsecond
  obtain ⟨rest, rfl⟩ := List.head?_eq_some_iff.mp (head?_of_head?_encode hd hsecond)
  exact ⟨rest, rfl⟩

end M68HC11.Text
