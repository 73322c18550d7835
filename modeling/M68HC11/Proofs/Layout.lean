import M68HC11.Proofs.Printed
import M68HC11.Text.Blank
import M68HC11.Text.Column
import M68HC11.Text.Lines
import Mathlib.Data.List.DropRight

/-!
Written text, laid out in lines and columns, as readers find it.

* `Text.trimEnd_append`: blanks are taken from behind the last character that
  is none, and a carriage return at the end of a line is one of them
  (`Text.trimEnd_endLine`);
* `Text.lines_append_newline`: the first line of a text, and
  `Text.exists_lines_append`: the first line of a text of which only the front
  is known;
* `Text.field?_encode`: a part of a line is the field in its columns, whatever
  characters the line has;
* `Text.Hex.Spells`: digits written in letters of either case, which are read
  as the number that they stand for (`Text.Hex.Spells.read?`).
-/

namespace M68HC11.Text

/-! ### Blanks at the end of a line -/

/-- Blanks behind a line are taken from it. -/
lemma trimEnd_append_of_blank (text : List Char) {blanks : List Char}
    (h : ∀ c ∈ blanks, isBlank c = true) : trimEnd (text ++ blanks) = trimEnd text := by
  have hdrop : blanks.reverse.dropWhile isBlank = [] :=
    List.dropWhile_eq_nil_iff.mpr fun c hc => h c (List.mem_reverse.mp hc)
  rw [trimEnd, List.reverse_append, List.dropWhile_append, hdrop]
  rfl

/-- Nothing is taken from in front of a character that is no blank. -/
lemma trimEnd_append_cons (front tail : List Char) {c : Char} (h : isBlank c = false) :
    trimEnd (front ++ c :: tail) = front ++ c :: trimEnd tail := by
  have hreverse : (front ++ c :: tail).reverse = tail.reverse ++ c :: front.reverse := by simp
  rw [trimEnd, trimEnd, hreverse, List.dropWhile_append]
  cases hdrop : tail.reverse.dropWhile isBlank with
  | nil => simp [h]
  | cons d rest => simp

/-- Nothing is taken from characters none of which is blank. -/
lemma trimEnd_append {digits : List Char} (hne : digits ≠ [])
    (h : ∀ c ∈ digits, isBlank c = false) (front tail : List Char) :
    trimEnd (front ++ (digits ++ tail)) = front ++ (digits ++ trimEnd tail) := by
  obtain ⟨init, last, rfl⟩ := List.eq_nil_or_concat digits |>.resolve_left hne
  have hlast := h last (by simp)
  have hbehind := trimEnd_append_cons (front ++ init) tail hlast
  simpa using hbehind

/-- The line without the blanks at its end begins as the line does. -/
lemma head?_of_head?_trimEnd {text : List Char} {c : Char} (h : (trimEnd text).head? = some c) :
    text.head? = some c := by
  obtain ⟨blanks, hblanks⟩ : trimEnd text <+: text := List.rdropWhile_prefix isBlank text
  rw [← hblanks, List.head?_append, h, Option.some_or]

/-! ### Lines -/

/-- The line that a line feed ends, given with the carriage return that may
stand before it. -/
def endLine (line : List Char) : List Char := finishLine line.reverse

/-- At most one carriage return is taken from the line. -/
lemma endLine_eq_or (line : List Char) : endLine line = line ∨ endLine line ++ ['\r'] = line := by
  rcases List.eq_nil_or_concat line with rfl | ⟨init, last, rfl⟩
  · exact .inl rfl
  · rw [List.concat_eq_append]
    by_cases hlast : last = '\r'
    · subst hlast
      exact .inr (by simp [endLine, finishLine])
    · refine .inl ?_
      rw [endLine, finishLine]
      · simp
      · simp [hlast]

/-- The carriage return is one of the blanks at the end. -/
lemma trimEnd_endLine (line : List Char) : trimEnd (endLine line) = trimEnd line := by
  rcases endLine_eq_or line with hline | hline
  · rw [hline]
  · have hblank : ∀ c ∈ ['\r'], isBlank c = true := List.forall_mem_singleton.mpr rfl
    rw [← trimEnd_append_of_blank (endLine line) hblank, hline]

/-- What stands before a line feed is read into the line. -/
lemma linesFrom_append {front : List Char} (h : '\n' ∉ front) (line rest : List Char) :
    linesFrom line (front ++ rest) = linesFrom (front.reverse ++ line) rest := by
  induction front generalizing line with
  | nil => rfl
  | cons c front ih =>
      have hc : c ≠ '\n' := fun heq => h (heq ▸ List.mem_cons_self)
      have hfront : '\n' ∉ front := fun hmem => h (List.mem_cons_of_mem _ hmem)
      rw [List.cons_append, linesFrom, if_neg hc, ih hfront, List.reverse_cons, List.append_assoc]
      rfl

/-- The first line of a text ends at the first line feed. -/
lemma lines_append_newline {line : List Char} (h : '\n' ∉ line) (rest : List Char) :
    lines (line ++ '\n' :: rest) = endLine line :: lines rest := by
  rw [lines, linesFrom_append h, linesFrom, if_pos rfl, List.append_nil]
  rfl

/-- A text without line feeds is a line of its own, unless it is empty. -/
lemma lines_of_notMem {line : List Char} (h : '\n' ∉ line) :
    lines line = if line.isEmpty then [] else [line] := by
  have hall := linesFrom_append h [] []
  rw [List.append_nil, List.append_nil] at hall
  rw [lines, hall, linesFrom, List.isEmpty_reverse, List.reverse_reverse]

/-- A text that begins without a line feed has a first line that begins so, but
for the blanks at its end. -/
lemma exists_lines_append {front : List Char} (h : '\n' ∉ front) (hne : front ≠ [])
    (rest : List Char) : ∃ first more tail, lines (front ++ rest) = first :: more ∧
      trimEnd first = trimEnd (front ++ tail) := by
  by_cases hrest : '\n' ∈ rest
  · obtain ⟨tail, more, rfl, htail⟩ := List.eq_append_cons_of_mem hrest
    refine ⟨endLine (front ++ tail), lines more, tail, ?_, trimEnd_endLine _⟩
    rw [← List.append_assoc, lines_append_newline]
    exact fun hmem => (List.mem_append.mp hmem).elim h htail
  · refine ⟨front ++ rest, [], rest, ?_, rfl⟩
    rw [lines_of_notMem fun hmem => (List.mem_append.mp hmem).elim h hrest, if_neg]
    simp [hne]

/-! ### Columns -/

/-- A text in two parts is encoded part by part. -/
lemma encode_append (s t : List Char) : encode (s ++ t) = encode s ++ encode t :=
  List.flatMap_append

/-- An ASCII character is encoded by its code, another one by several bytes of
which the first is as large as no code and no byte that continues a character. -/
lemma utf8EncodeChar_cases (c : Char) :
    (c.toNat < 0x80 ∧ String.utf8EncodeChar c = [UInt8.ofNat c.toNat]) ∨
      ∃ b bs, String.utf8EncodeChar c = b :: bs ∧ 0xC0 ≤ b.toNat := by
  have hfirst (n k : Nat) (hk : 0xC0 ≤ k) (hlt : n + k < 0x100) :
      0xC0 ≤ (UInt8.ofNat (n + k)).toNat := by
    rw [UInt8.toNat_ofNat']
    omega
  by_cases hsmall : c.toNat < 0x80
  · exact .inl ⟨hsmall, if_pos (Nat.le_of_lt_succ hsmall)⟩
  · have hlarge : ¬ c.val.toNat ≤ 0x7F := fun hle => hsmall (Nat.lt_succ_of_le hle)
    refine .inr ?_
    rw [String.utf8EncodeChar]
    simp only [if_neg hlarge]
    split
    · exact ⟨_, _, rfl, hfirst _ _ (by decide) (by omega)⟩
    split
    · exact ⟨_, _, rfl, hfirst _ _ (by decide) (by omega)⟩
    · exact ⟨_, _, rfl, hfirst _ _ (by decide) (by omega)⟩

/-- Small bytes and those from `0xC0` on begin a character. -/
lemma isContinuation_eq_false {b : UInt8} (h : b.toNat < 0x80 ∨ 0xC0 ≤ b.toNat) :
    isContinuation b = false := by
  have hfirst : (0x80 : UInt8).toNat = 0x80 := rfl
  have hlast : (0xC0 : UInt8).toNat = 0xC0 := rfl
  rw [isContinuation, Bool.and_eq_false_iff, decide_eq_false_iff_not, decide_eq_false_iff_not,
    UInt8.le_iff_toNat_le, UInt8.lt_iff_toNat_lt]
  omega

/-- A character is encoded by a byte that begins it and others behind. -/
lemma exists_utf8EncodeChar_eq (c : Char) :
    ∃ b bs, String.utf8EncodeChar c = b :: bs ∧ isContinuation b = false := by
  obtain ⟨hsmall, hone⟩ | ⟨b, bs, hseveral, hlarge⟩ := utf8EncodeChar_cases c
  · refine ⟨_, _, hone, isContinuation_eq_false (.inl ?_)⟩
    rw [UInt8.toNat_ofNat']
    omega
  · exact ⟨b, bs, hseveral, isContinuation_eq_false (.inr hlarge)⟩

/-- A character begins, or the line ends, behind each part of a text. -/
lemma startsCharacter_encode (s t : List Char) :
    startsCharacter (encode (s ++ t)) (encode s).length = true := by
  rw [encode_append, startsCharacter]
  cases t with
  | nil => simp [encode]
  | cons c t =>
      obtain ⟨b, bs, hc, hb⟩ := exists_utf8EncodeChar_eq c
      have hencode : encode (c :: t) = b :: (bs ++ encode t) := by
        rw [encode, List.flatMap_cons, hc]
        rfl
      simp [hencode, hb]

/-- A part of a line is found in its columns. -/
lemma field?_encode (front field tail : List Char) :
    field? (encode (front ++ (field ++ tail))) (encode front).length (encode field).length =
      some (encode field) := by
  have hstart := startsCharacter_encode front (field ++ tail)
  have hend := startsCharacter_encode (front ++ field) tail
  rw [encode_append front field, List.length_append, List.append_assoc] at hend
  rw [field?, hstart, hend]
  simp [encode_append]

/-- The encoded form of a text begins with an ASCII character only if the text
does. -/
lemma head?_of_head?_encode {text : List Char} {c : Char} (hc : c.toNat < 0x80)
    (h : (encode text).head? = some (UInt8.ofNat c.toNat)) : text.head? = some c := by
  have hcode : (UInt8.ofNat c.toNat).toNat = c.toNat := by
    rw [UInt8.toNat_ofNat']
    omega
  cases text with
  | nil => simp [encode] at h
  | cons d text =>
      rw [encode, List.flatMap_cons] at h
      obtain ⟨hd, hone⟩ | ⟨b, bs, hseveral, hlarge⟩ := utf8EncodeChar_cases d
      · rw [hone] at h
        have heq : (UInt8.ofNat d.toNat).toNat = c.toNat := by
          rw [Option.some.inj h, hcode]
        rw [UInt8.toNat_ofNat', Nat.mod_eq_of_lt (by omega)] at heq
        rw [List.head?_cons, Char.toNat_inj.mp heq]
      · rw [hseveral] at h
        have heq : b.toNat = c.toNat := by
          rw [Option.some.inj h, hcode]
        omega

/-- An ASCII character in front of a text is encoded by its code. -/
lemma encode_cons {c : Char} (hc : c.toNat < 0x80) (text : List Char) :
    encode (c :: text) = UInt8.ofNat c.toNat :: encode text := by
  have hone : String.utf8EncodeChar c = [UInt8.ofNat c.toNat] := if_pos (Nat.le_of_lt_succ hc)
  rw [encode, List.flatMap_cons, hone]
  rfl

/-- An ASCII text is encoded by the codes of its characters. -/
lemma encode_of_ascii {text : List Char} (h : ∀ c ∈ text, c.toNat < 0x80) :
    encode text = text.map fun c => UInt8.ofNat c.toNat := by
  induction text with
  | nil => rfl
  | cons c text ih =>
      obtain ⟨hc, htext⟩ := List.forall_mem_cons.mp h
      rw [encode_cons hc, ih htext, List.map_cons]

/-- An ASCII text has as many columns as characters. -/
lemma length_encode {text : List Char} (h : ∀ c ∈ text, c.toNat < 0x80) :
    (encode text).length = text.length := by
  rw [encode_of_ascii h, List.length_map]

/-- An ASCII text is read from a field as it was encoded. -/
lemma fieldText_encode {text : List Char} (h : ∀ c ∈ text, c.toNat < 0x80) :
    fieldText (encode text) = text := by
  rw [encode_of_ascii h, fieldText, List.map_map]
  refine (List.map_congr_left fun c hc => ?_).trans (List.map_id text)
  have hlt := h c hc
  rw [Function.comp_apply, UInt8.toNat_ofNat', Nat.mod_eq_of_lt (by omega), Char.ofNat_toNat, id]

/-! ### Digits in letters of either case -/

/-- A small letter or digit has one of the codes from `'0'` to `'z'`. -/
lemma toNat_of_isPlain {c : Char} (h : isPlain c = true) : 48 ≤ c.toNat ∧ c.toNat ≤ 122 := by
  have hrange {low high : UInt32} (hc : (decide (c.val ≥ low) && decide (c.val ≤ high)) = true) :
      low.toNat ≤ c.toNat ∧ c.toNat ≤ high.toNat := by
    rw [Bool.and_eq_true, decide_eq_true_eq, decide_eq_true_eq] at hc
    exact ⟨UInt32.le_iff_toNat_le.mp hc.1, UInt32.le_iff_toNat_le.mp hc.2⟩
  rcases Bool.or_eq_true_iff.mp h with hletter | hdigit
  · obtain ⟨hlow, hhigh⟩ : 97 ≤ c.toNat ∧ c.toNat ≤ 122 := hrange hletter
    exact ⟨Nat.le_trans (by decide) hlow, hhigh⟩
  · obtain ⟨hlow, hhigh⟩ : 48 ≤ c.toNat ∧ c.toNat ≤ 57 := hrange hdigit
    exact ⟨hlow, Nat.le_trans hhigh (by decide)⟩

/-- So has a capital letter. -/
lemma toNat_of_isPlain_toLower {c : Char} (h : isPlain c.toLower = true) :
    48 ≤ c.toNat ∧ c.toNat ≤ 122 := by
  by_cases hupper : c.val ≥ 'A'.val ∧ c.val ≤ 'Z'.val
  · have hge : 65 ≤ c.toNat := UInt32.le_iff_toNat_le.mp hupper.1
    have hle : c.toNat ≤ 90 := UInt32.le_iff_toNat_le.mp hupper.2
    omega
  · have hsame : c.toLower = c := dif_neg hupper
    exact toNat_of_isPlain (hsame ▸ h)

/-- No blank has such a code. -/
lemma isBlank_eq_false {c : Char} (h : 48 ≤ c.toNat ∧ c.toNat ≤ 122) : isBlank c = false := by
  simp [isBlank, blankRanges]
  omega

/-- A digit has the same value in letters of either case. -/
lemma digit?_toLower {c : Char} (h : c.toNat < 0x80) :
    Numeral.digit? 16 c.toLower = Numeral.digit? 16 c := by
  have hall : ∀ n < 0x80,
      Numeral.digit? 16 (Char.ofNat n).toLower = Numeral.digit? 16 (Char.ofNat n) := by
    decide
  rw [← Char.ofNat_toNat c]
  exact hall c.toNat h

/-- So have rows of digits. -/
lemma valueFrom?_map_toLower {text : List Char} (h : ∀ c ∈ text, c.toNat < 0x80) (start : Nat) :
    Numeral.valueFrom? 16 start (text.map Char.toLower) = Numeral.valueFrom? 16 start text := by
  induction text generalizing start with
  | nil => rfl
  | cons c text ih =>
      obtain ⟨hc, htext⟩ := List.forall_mem_cons.mp h
      rw [List.map_cons, Numeral.valueFrom?, Numeral.valueFrom?, digit?_toLower hc]
      congr 1
      funext d
      exact ih htext _

namespace Hex

/-- Whether a text consists of the given digits, in letters of either case. -/
def Spells (text digits : List Char) : Prop := text.map Char.toLower = digits

instance (text digits : List Char) : Decidable (Spells text digits) :=
  inferInstanceAs (Decidable (_ = _))

namespace Spells

variable {text digits : List Char}

lemma length_eq (h : Spells text digits) : text.length = digits.length := by
  rw [← h, List.length_map]

/-- A text of digits in two rows has two parts. -/
lemma exists_append {digits' : List Char} (h : Spells text (digits ++ digits')) :
    ∃ front rest, text = front ++ rest ∧ Spells front digits ∧ Spells rest digits' :=
  List.map_eq_append_iff.mp h

/-- Digits are spelled by characters with the codes from `'0'` to `'z'`. -/
lemma toNat_of_mem (h : Spells text digits) (hplain : ∀ d ∈ digits, isPlain d = true) :
    ∀ c ∈ text, 48 ≤ c.toNat ∧ c.toNat ≤ 122 := by
  intro c hc
  exact toNat_of_isPlain_toLower (hplain _ (h ▸ List.mem_map_of_mem hc))

/-- Digits are spelled by ASCII characters. -/
lemma ascii (h : Spells text digits) (hplain : ∀ d ∈ digits, isPlain d = true) :
    ∀ c ∈ text, c.toNat < 0x80 :=
  fun c hc => Nat.lt_of_le_of_lt (h.toNat_of_mem hplain c hc).2 (by decide)

/-- Blanks are taken from behind the digits. -/
lemma trimEnd_append (h : Spells text digits) (hplain : ∀ d ∈ digits, isPlain d = true)
    (hne : digits ≠ []) (front tail : List Char) :
    trimEnd (front ++ (text ++ tail)) = front ++ (text ++ trimEnd tail) := by
  refine Text.trimEnd_append ?_ (fun c hc => isBlank_eq_false (h.toNat_of_mem hplain c hc)) ..
  rw [← List.length_pos_iff, h.length_eq]
  exact List.length_pos_iff.mpr hne

/-- Digits are read as the number that they stand for. -/
lemma read? {value limit : Nat} (h : Spells text digits)
    (hplain : ∀ d ∈ digits, isPlain d = true) (hne : digits ≠ [])
    (hvalue : Numeral.value? 16 digits = some value) (hlt : value < limit) :
    Numeral.read? 16 limit text = some value := by
  have hcodes := h.toNat_of_mem hplain
  have htext : Numeral.digits text = text := by
    unfold Numeral.digits
    split
    · exact absurd (hcodes '+' List.mem_cons_self) (by decide)
    · rfl
  have hnonempty : text.isEmpty = false := by
    rw [List.isEmpty_eq_false_iff, ← List.length_pos_iff, h.length_eq]
    exact List.length_pos_iff.mpr hne
  have hsame : Numeral.value? 16 text = some value := by
    rw [← hvalue, ← h, Numeral.value?, Numeral.value?, valueFrom?_map_toLower (h.ascii hplain)]
  simp [Numeral.read?, htext, hnonempty, hsame, hlt]

lemma read?_byte {b : UInt8} {limit : Nat} (h : Spells text (byte .small b))
    (hlimit : 256 ≤ limit) : Numeral.read? 16 limit text = some b.toNat :=
  h.read? (isPlain_of_mem_byte b) (List.cons_ne_nil _ _) (value?_byte b)
    (Nat.lt_of_lt_of_le b.toNat_lt hlimit)

lemma read?_word {w : UInt16} (h : Spells text (word .small w)) :
    Numeral.read? 16 65536 text = some w.toNat :=
  h.read? (isPlain_of_mem_word w) (List.cons_ne_nil _ _) (value?_word w) w.toNat_lt

end Spells

end Hex

end M68HC11.Text
