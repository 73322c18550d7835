import M68HC11.Proofs.Columns
import M68HC11.Proofs.Fields

/-!
Records that are shorter than their count says.

* `SRecord.exists_of_number?`: only columns of ASCII characters have a number;
* `SRecord.IsData`: a record of type 1 with its count and the characters behind
  it, and `SRecord.BeforeEnd`: a record with no record of type 9 in front;
* `SRecord.error?_of_shortRecord`: a record that is accepted has the characters of
  its address and of its payload, but it need not have its checksum; one that
  lacks any of the others is told as truncated unless there is a fault in front.
-/

namespace M68HC11

open Text

namespace SRecord

variable {record rest : List Char} {count : ℕ}

/-! ### Fields of ASCII characters -/

/-- Columns of ASCII characters have the number that the characters are read as. -/
lemma number?_of_ascii {f : Field} (h : ∀ c ∈ record.take (f.start + f.width), c.toNat < 0x80) :
    f.number? (encode record) =
      if f.start + f.width ≤ record.length then
        Numeral.read? 16 65536 ((record.drop f.start).take f.width)
      else none := by
  have hfield : ∀ c ∈ (record.drop f.start).take f.width, c.toNat < 0x80 := by
    rw [List.take_add] at h
    exact (List.forall_mem_append.mp h).2
  rw [Field.number?, Field.bytes?, field?_of_ascii h]
  split
  · rw [Option.bind_some, fieldText_encode hfield]
  · rfl

/-- A field has a number only if its columns are those of ASCII characters. -/
lemma exists_of_number? {f : Field} {front tail : List Char} {value : ℕ}
    (hfront : ∀ c ∈ front, c.toNat < 0x80) (hstart : front.length = f.start)
    (h : f.number? (encode (front ++ tail)) = some value) :
    ∃ field rest, tail = field ++ rest ∧ field.length = f.width ∧
      (∀ c ∈ field, c.toNat < 0x80) ∧ Numeral.read? 16 65536 field = some value := by
  obtain ⟨bytes, hbytes, hvalue⟩ := Option.bind_eq_some_iff.mp h
  have hwidth := length_of_field? hbytes
  have hascii := ascii_of_fieldText
    (Numeral.ascii_of_isSome_read? (by decide) (Option.isSome_iff_exists.mpr ⟨value, hvalue⟩))
  have hcolumns : bytes = (encode tail).take f.width := by
    rw [eq_of_field? hbytes, encode_append,
      List.drop_left' ((length_encode hfront).trans hstart)]
  rw [hcolumns] at hwidth hascii
  obtain ⟨field, rest, rfl, hlength, hfield⟩ := exists_append_of_ascii hwidth hascii
  refine ⟨field, rest, rfl, hlength, hfield, ?_⟩
  rwa [hcolumns, encode_append, List.take_left' ((length_encode hfield).trans hlength),
    fieldText_encode hfield] at hvalue

/-- Pairs that all have numbers are as many characters. -/
lemma exists_of_pairFields {front tail : List Char} {start : ℕ}
    (hfront : ∀ c ∈ front, c.toNat < 0x80) (hstart : front.length = start)
    (h : ∀ f ∈ pairFields start count, (f.number? (encode (front ++ tail))).isSome) :
    ∃ pairs rest, tail = pairs ++ rest ∧ pairs.length = 2 * count := by
  induction count generalizing front tail start with
  | zero => exact ⟨[], tail, rfl, rfl⟩
  | succ count ih =>
      rw [pairFields_succ, List.forall_mem_cons] at h
      obtain ⟨value, hvalue⟩ := Option.isSome_iff_exists.mp h.1
      obtain ⟨pair, tail, rfl, hpair, hascii, -⟩ := exists_of_number? hfront hstart hvalue
      rw [← List.append_assoc] at h
      obtain ⟨pairs, rest, rfl, hpairs⟩ := ih (List.forall_mem_append.mpr ⟨hfront, hascii⟩)
        (by rw [List.length_append, hstart, hpair]) h.2
      refine ⟨pair ++ pairs, rest, (List.append_assoc ..).symm, ?_⟩
      rw [List.length_append, hpair, hpairs, Nat.mul_succ, Nat.add_comm]

/-- Pairs stand two columns apart. -/
lemma mem_pairFields {f : Field} {start : ℕ} :
    f ∈ pairFields start count ↔ ∃ k < count, f = ⟨start + 2 * k, 2⟩ := by
  rw [pairFields, List.mem_map]
  constructor
  · rintro ⟨s, hs, rfl⟩
    obtain ⟨k, hk, rfl⟩ := List.mem_range'.mp hs
    exact ⟨k, hk, rfl⟩
  · rintro ⟨k, hk, rfl⟩
    exact ⟨_, List.mem_range'.mpr ⟨k, hk, rfl⟩, rfl⟩

/-! ### Records of type 1 -/

/-- A record of type 1 with a count and the characters behind it. -/
def IsData (record : List Char) (count : ℕ) (rest : List Char) : Prop :=
  ∃ c d, record = 'S' :: '1' :: c :: d :: rest ∧ Numeral.read? 16 65536 [c, d] = some count

/-- The number of characters of the address and of the payload of a record. -/
def bodyLength (count : ℕ) : ℕ := 4 + 2 * (count - 3)

namespace IsData

/-- The mark and the type are ASCII characters. -/
lemma ascii_mark : ∀ x ∈ ['S', '1'], x.toNat < 0x80 :=
  List.forall_mem_cons.mpr ⟨by decide, List.forall_mem_singleton.mpr (by decide)⟩

/-- So is all of a record up to its count. -/
lemma ascii {c d : Char} (h : Numeral.read? 16 65536 [c, d] = some count) :
    ∀ x ∈ ['S', '1'] ++ [c, d], x.toNat < 0x80 :=
  List.forall_mem_append.mpr ⟨ascii_mark,
    Numeral.ascii_of_isSome_read? (by decide) (Option.isSome_iff_exists.mpr ⟨count, h⟩)⟩

/-- The encoded form of a record begins with its mark and its type. -/
lemma encode_eq (h : IsData record count rest) :
    ∃ tail, encode record = 'S'.toUInt8 :: '1'.toUInt8 :: tail := by
  obtain ⟨c, d, rfl, -⟩ := h
  exact ⟨_, rfl⟩

lemma mark (h : IsData record count rest) : (encode record)[0]? = some 'S'.toUInt8 := by
  obtain ⟨tail, htail⟩ := h.encode_eq
  rw [htail]
  rfl

/-- The count is found in its field. -/
lemma number? (h : IsData record count rest) :
    countField.number? (encode record) = some count := by
  obtain ⟨c, d, rfl, hcount⟩ := h
  have hcolumns : ∀ x ∈ ('S' :: '1' :: c :: d :: rest).take (countField.start + countField.width),
      x.toNat < 0x80 := ascii hcount
  rw [number?_of_ascii hcolumns, if_pos]
  · exact hcount
  · simp [countField]

/-- What is read of a record is its count, its address and its pairs. -/
lemma fields_eq (h : IsData record count rest) :
    fields (encode record) = countField :: addressField :: pairFields 8 (count - 3) := by
  obtain ⟨tail, htail⟩ := h.encode_eq
  exact fields_of_one (by rw [htail]; rfl) h.number?

/-- The columns of the address and of the pairs lie behind the count. -/
lemma columns_of_mem {f : Field} (h : f ∈ addressField :: pairFields 8 (count - 3)) :
    4 ≤ f.start ∧ f.start + f.width ≤ 4 + bodyLength count ∧ 0 < f.width ∧ f.width ≤ 4 := by
  rw [bodyLength]
  rcases List.mem_cons.mp h with rfl | hpair
  · dsimp only [addressField]
    omega
  · obtain ⟨k, hk, rfl⟩ := mem_pairFields.mp hpair
    dsimp only
    omega

/-- A record without a fault has its address and its payload. -/
lemma exists_body (h : IsData record count rest) (hnone : firstFault? (encode record) = none) :
    ∃ body checksum, rest = body ++ checksum ∧ body.length = bodyLength count := by
  rw [firstFault?, h.fields_eq, faultIn?_eq_none_iff, List.forall_mem_cons, List.forall_mem_cons]
    at hnone
  obtain ⟨-, haddress, hpairs⟩ := hnone
  obtain ⟨c, d, rfl, hcount⟩ := h
  obtain ⟨value, hvalue⟩ := Option.isSome_iff_exists.mp haddress
  have hfront := ascii hcount
  obtain ⟨address, tail, rfl, hlength, hascii, -⟩ :=
    exists_of_number? hfront rfl hvalue
  have hstart : (['S', '1', c, d] ++ address).length = 8 := by
    rw [List.length_append, hlength]
    rfl
  obtain ⟨pairs, checksum, rfl, hcontent⟩ :=
    exists_of_pairFields (List.forall_mem_append.mpr ⟨hfront, hascii⟩) hstart hpairs
  refine ⟨address ++ pairs, checksum, (List.append_assoc ..).symm, ?_⟩
  rw [List.length_append, hlength, hcontent]
  rfl

/-- Digits behind the count are ASCII characters in all columns. -/
lemma ascii_columns (h : IsData record count rest)
    (hdigits : Numeral.AllDigits 16 (rest.take (bodyLength count))) {f : Field}
    (hf : f ∈ addressField :: pairFields 8 (count - 3)) :
    ∀ x ∈ record.take (f.start + f.width), x.toNat < 0x80 := by
  obtain ⟨hstart, hend, -, -⟩ := columns_of_mem hf
  obtain ⟨c, d, rfl, hcount⟩ := h
  obtain ⟨k, hk⟩ : ∃ k, f.start + f.width = k + 4 := Nat.exists_eq_add_of_le' (by omega)
  have hcolumns : Numeral.AllDigits 16 (rest.take k) := fun x hx =>
    hdigits x ((List.take_prefix_take_left (by omega)).subset hx)
  have htake : ('S' :: '1' :: c :: d :: rest).take (k + 4) = ['S', '1', c, d] ++ rest.take k := rfl
  rw [hk, htake]
  exact List.forall_mem_append.mpr ⟨ascii hcount, Numeral.ascii_of_allDigits (by decide) hcolumns⟩

/-- They are digits in the columns of each field. -/
lemma digits_columns (h : IsData record count rest)
    (hdigits : Numeral.AllDigits 16 (rest.take (bodyLength count))) {f : Field}
    (hf : f ∈ addressField :: pairFields 8 (count - 3)) :
    Numeral.AllDigits 16 ((record.drop f.start).take f.width) := by
  obtain ⟨hstart, hend, -, -⟩ := columns_of_mem hf
  obtain ⟨c, d, rfl, -⟩ := h
  obtain ⟨j, hj⟩ := Nat.exists_eq_add_of_le' hstart
  have hdrop : ('S' :: '1' :: c :: d :: rest).drop (j + 4) = rest.drop j := rfl
  intro x hx
  have hcolumns : x ∈ rest.take (j + f.width) := by
    rw [hj, hdrop] at hx
    rw [List.take_add]
    exact List.mem_append_right _ hx
  exact hdigits x ((List.take_prefix_take_left (by omega)).subset hcolumns)

/-- With digits behind the count, the fields that are there have numbers. -/
lemma number?_eq_none_iff (h : IsData record count rest)
    (hdigits : Numeral.AllDigits 16 (rest.take (bodyLength count))) {f : Field}
    (hf : f ∈ addressField :: pairFields 8 (count - 3)) :
    f.number? (encode record) = none ↔ record.length < f.start + f.width := by
  obtain ⟨-, -, hpos, hwidth⟩ := columns_of_mem hf
  rw [number?_of_ascii (h.ascii_columns hdigits hf)]
  split
  · next hle =>
    have hlength : ((record.drop f.start).take f.width).length = f.width := by
      rw [List.length_take, List.length_drop]
      omega
    have hne : (record.drop f.start).take f.width ≠ [] := by
      rw [← List.length_pos_iff, hlength]
      exact hpos
    have hsome : (Numeral.read? 16 65536 ((record.drop f.start).take f.width)).isSome := by
      refine (Numeral.isSome_read?_iff_of_length (by decide) hne ?_).mpr
        (.inl (h.digits_columns hdigits hf))
      rw [hlength]
      exact Nat.pow_le_pow_right (by decide) hwidth
    refine iff_of_false (fun hnone => ?_) (Nat.not_lt_of_le hle)
    rw [hnone] at hsome
    cases hsome
  · next hlt => exact iff_of_true rfl (Nat.lt_of_not_le hlt)

/-- With digits behind the count, a record has a fault exactly if its address or
a part of its payload is missing. -/
lemma firstFault?_iff (h : IsData record count rest)
    (hdigits : Numeral.AllDigits 16 (rest.take (bodyLength count))) :
    (∃ f, firstFault? (encode record) = some f ∧ f.bytes? (encode record) = none) ↔
      rest.length < bodyLength count := by
  have hlength : record.length = rest.length + 4 := by
    obtain ⟨c, d, rfl, -⟩ := h
    rfl
  have hmissing {f : Field} (hf : firstFault? (encode record) = some f) :
      f ∈ addressField :: pairFields 8 (count - 3) ∧ record.length < f.start + f.width := by
    obtain ⟨hmem, hnone⟩ := number?_of_faultIn? hf
    rw [h.fields_eq] at hmem
    rcases List.mem_cons.mp hmem with rfl | hmem
    · rw [h.number?] at hnone
      cases hnone
    · exact ⟨hmem, (h.number?_eq_none_iff hdigits hmem).mp hnone⟩
  constructor
  · rintro ⟨f, hf, -⟩
    obtain ⟨hmem, hlt⟩ := hmissing hf
    have hend := (columns_of_mem hmem).2.1
    omega
  · intro hshort
    cases hfault : firstFault? (encode record) with
    | none =>
        obtain ⟨body, checksum, rfl, hbody⟩ := h.exists_body hfault
        rw [List.length_append] at hshort
        omega
    | some f =>
        obtain ⟨hmem, hlt⟩ := hmissing hfault
        refine ⟨f, rfl, ?_⟩
        rw [Field.bytes?, field?_of_ascii (h.ascii_columns hdigits hmem),
          if_neg (Nat.not_le_of_lt hlt)]

end IsData

/-- A record without a fault that begins as one of type 1 has a count. -/
lemma exists_isData (hone : ['S', '1'] <+: record) (hnone : firstFault? (encode record) = none) :
    ∃ count rest, IsData record count rest := by
  obtain ⟨tail, rfl⟩ := hone
  have htype : (encode (['S', '1'] ++ tail))[1]? = some '1'.toUInt8 := rfl
  rw [firstFault?, fields, if_pos htype, faultIn?_eq_none_iff, List.forall_mem_cons] at hnone
  obtain ⟨count, hcount⟩ := Option.isSome_iff_exists.mp hnone.1
  obtain ⟨field, rest, rfl, hlength, -, hvalue⟩ :=
    exists_of_number? IsData.ascii_mark rfl hcount
  obtain ⟨c, d, rfl⟩ := List.length_eq_two.mp hlength
  exact ⟨count, rest, c, d, rfl, hvalue⟩

/-! ### Records in front of the end -/

/-- A record on the line behind the first `n`, none of which has a record of
type 9. -/
def BeforeEnd (text : List Char) (n : ℕ) (record : List Char) : Prop :=
  ∃ last, (lines text)[n]? = some last ∧ trimEnd last = record ∧
    ∀ m < n, ∀ earlier, (lines text)[m]? = some earlier → ¬ ['S', '9'] <+: trimEnd earlier

/-- Lines in front of some that pass do. -/
lemma Passes.of_append {line : ℕ} {front rest : List (List Char)}
    {blocks : List (UInt16 × List UInt8)} (h : Passes line (front ++ rest) blocks) :
    ∃ blocks, Passes line front blocks := by
  induction front generalizing line blocks with
  | nil => exact ⟨[], .nil line⟩
  | cons text front ih =>
      cases h with
      | cons hread hon hrest =>
          obtain ⟨blocks, hfront⟩ := ih hrest
          exact ⟨_, .cons hread hon hfront⟩

/-- An entry address is read of a record of type 9. -/
lemma type_of_entry {line : ℕ} {text : List Char} {address : UInt16}
    (h : readLine line text = .ok (.entry address)) : ['S', '9'] <+: trimEnd text := by
  rw [readLine] at h
  split at h
  · cases h
  rw [ofLine] at h
  split at h
  · cases h
  next hmark =>
  split at h
  · rw [readData] at h
    split at h
    · cases h
    split at h
    · cases h
    split at h
    · cases h
    · cases h
  split at h
  · next htype => exact prefix_of_encode (by decide) (by decide) (not_not.mp hmark) htype
  · cases h

/-- Without an error, reading gets to all records in front of the end. -/
lemma reaches_of_beforeEnd {text : List Char} {n : ℕ}
    (hnone : (Image.ofSRecords text).error? = none) (h : BeforeEnd text n record) :
    Reaches text n record := by
  obtain ⟨last, hlast, hrecord, hbefore⟩ := h
  obtain ⟨hn, -⟩ := List.getElem?_eq_some_iff.mp hlast
  have hreaches {blocks : List (UInt16 × List UInt8)}
      (hpasses : Passes 1 ((lines text).take n) blocks) : Reaches text n record := by
    refine ⟨_, blocks, last, (lines text).drop (n + 1), ?_, hpasses, ?_, hrecord⟩
    · rw [← (List.getElem?_eq_some_iff.mp hlast).2, ← List.drop_eq_getElem_cons hn,
        List.take_append_drop]
    · rw [List.length_take]
      omega
  obtain ⟨blocks, hall⟩ | ⟨front, blocks, stop, rest, htext, hfront, hstop⟩ :=
    exists_passes 1 (lines text)
  · rw [← List.take_append_drop n (lines text)] at hall
    obtain ⟨blocks, htake⟩ := hall.of_append
    exact hreaches htake
  -- the line at which reading ends is one that it gets to
  by_cases hle : n ≤ front.length
  · rw [← List.take_append_drop n front] at hfront
    obtain ⟨blocks, htake⟩ := hfront.of_append
    rw [← List.take_append_of_le_length hle, ← htext] at htake
    exact hreaches htake
  · have hat : (lines text)[front.length]? = some stop := by
      rw [htext, List.getElem?_append_right (Nat.le_refl _), Nat.sub_self]
      rfl
    obtain ⟨e, hread⟩ | ⟨address, hread⟩ := hstop
    · rw [Image.ofSRecords, htext, hfront.readLines_append, Image.error?_prepend,
        readLines_of_error hread] at hnone
      cases hnone
    · exact absurd (type_of_entry hread) (hbefore _ (Nat.lt_of_not_le hle) _ hat)

/-! ### Short records -/

/-- **Records that are cut off.** In a text that is read without an error, each
record of type 1 in front of the end has a count, and behind it the address and
the payload that the count tells; so it is as long as its count says exactly if
it has its checksum as well, or if its count is too small for one. A record that
reading gets to is told as truncated exactly if the first of its fields without a
number is not there: with digits behind the count, exactly if its address or a
part of its payload is missing. -/
theorem error?_of_shortRecord (text : List Char) :
    ((Image.ofSRecords text).error? = none →
      ∀ n record, BeforeEnd text n record → ['S', '1'] <+: record →
        ∃ count body checksum, IsData record count (body ++ checksum) ∧
          body.length = bodyLength count ∧
          (2 * count ≤ (body ++ checksum).length ↔ count < 3 ∨ 2 ≤ checksum.length)) ∧
    ∀ n record count rest, Reaches text n record → IsData record count rest →
      ((Image.ofSRecords text).error? = some (.truncatedRecord (n + 1)) ↔
        ∃ f, firstFault? (encode record) = some f ∧ f.bytes? (encode record) = none) ∧
      (Numeral.AllDigits 16 (rest.take (bodyLength count)) →
        ((Image.ofSRecords text).error? = some (.truncatedRecord (n + 1)) ↔
          rest.length < bodyLength count)) := by
  constructor
  · intro hnone n record hbefore hone
    have hreaches := reaches_of_beforeEnd hnone hbefore
    have hmark : (encode record)[0]? = some 'S'.toUInt8 := by
      obtain ⟨tail, rfl⟩ := hone
      rfl
    have hfault : firstFault? (encode record) = none := by
      cases hfault : firstFault? (encode record) with
      | none => rfl
      | some f =>
          have herror := (error?_iff_firstFault? hreaches hmark (f.line?_fault ..)).mpr
            ⟨f, hfault, rfl⟩
          rw [hnone] at herror
          cases herror
    obtain ⟨count, rest, hdata⟩ := exists_isData hone hfault
    obtain ⟨body, checksum, rfl, hbody⟩ := hdata.exists_body hfault
    refine ⟨count, body, checksum, hdata, hbody, ?_⟩
    rw [List.length_append, hbody, bodyLength]
    omega
  · intro n record count rest hreaches hdata
    have htold := error?_truncatedRecord_iff hreaches hdata.mark
    exact ⟨htold, fun hdigits => htold.trans (hdata.firstFault?_iff hdigits)⟩

/-- A record with its checksum, and the end. -/
def wholeRecord : List Char := "S1041000018A\nS9031000EC".toList

/-- A record that is cut off in its payload. -/
def cutPayload : List Char := "S10710008605".toList

/-- The first record is read, the second one told as truncated. -/
theorem error?_of_shortRecord_cutPayload :
    (Image.ofSRecords wholeRecord).error? = none ∧
      BeforeEnd wholeRecord 0 "S1041000018A".toList ∧
      (∃ count body checksum, IsData "S1041000018A".toList count (body ++ checksum) ∧
        body.length = bodyLength count ∧
        (2 * count ≤ (body ++ checksum).length ↔ count < 3 ∨ 2 ≤ checksum.length)) ∧
      Reaches cutPayload 0 cutPayload ∧ IsData cutPayload 7 "10008605".toList ∧
      (Image.ofSRecords cutPayload).error? = some (.truncatedRecord 1) := by
  have hnone : (Image.ofSRecords wholeRecord).error? = none := by decide +kernel
  have hbefore : BeforeEnd wholeRecord 0 "S1041000018A".toList :=
    ⟨"S1041000018A".toList, by decide, by decide, nofun⟩
  have hreaches : Reaches cutPayload 0 cutPayload :=
    ⟨[], [], cutPayload, [], by decide, .nil 1, rfl, by decide⟩
  have hdata : IsData cutPayload 7 "10008605".toList := ⟨'0', '7', by decide, by decide⟩
  have hwhole := (error?_of_shortRecord wholeRecord).1 hnone _ _ hbefore (by decide)
  have hcut := ((error?_of_shortRecord cutPayload).2 _ _ _ _ hreaches hdata).2 (by decide)
  exact ⟨hnone, hbefore, hwhole, hreaches, hdata, hcut.mpr (by decide)⟩

/-- A record that is cut off in front of its checksum. -/
def cutChecksum : List Char := "S10410008A".toList

/-- Of the four bytes that it counts, it has three, and it is accepted. -/
theorem error?_cutChecksum :
    (Image.ofSRecords cutChecksum).error? = none ∧ BeforeEnd cutChecksum 0 cutChecksum ∧
      IsData cutChecksum 4 "10008A".toList ∧ "10008A".toList.length < 2 * 4 :=
  ⟨by decide +kernel, ⟨cutChecksum, by decide, by decide, nofun⟩,
    ⟨'0', '4', by decide, by decide⟩, by decide⟩

end SRecord

end M68HC11
