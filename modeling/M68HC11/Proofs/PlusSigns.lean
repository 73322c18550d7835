import M68HC11.Image.HexDump
import M68HC11.Proofs.Columns
import M68HC11.Proofs.Fields
import M68HC11.Proofs.Spellings

/-!
Where a plus sign is taken for a part of a number.

* `DumpRow.isSome_pairs?_iff`: a row of a dump has bytes exactly if all its pairs
  are numerals, and `DumpRow.values_ne_nil_iff` puts this in terms of its digits;
* `refused_iff_not_signed`: other characters than digits are refused by the readers
  of records, of dumps and of addresses, unless they are a plus sign in front.
-/

namespace M68HC11

open Text

/-! ### Rows of a dump -/

namespace DumpRow

/-- The characters of a pair among the digits of a row. -/
def pair (digits : List UInt8) (k : ℕ) : List Char := fieldText ((digits.drop (2 * k)).take 2)

/-- Pairs are read exactly if each of them is there and is a numeral. -/
lemma isSome_pairs?_iff_field? (digits : List UInt8) (column count : ℕ) :
    (pairs? digits column count).isSome ↔
      ∀ k < count, ∃ field, field? digits (column + 2 * k) 2 = some field ∧
        (Numeral.read? 16 256 (fieldText field)).isSome := by
  induction count generalizing column with
  | zero => exact iff_of_true rfl nofun
  | succ count ih =>
      have hrest : (pairs? digits (column + 2) count).isSome ↔
          ∀ k < count, ∃ field, field? digits (column + 2 * (k + 1)) 2 = some field ∧
            (Numeral.read? 16 256 (fieldText field)).isSome := by
        rw [ih]
        refine forall₂_congr fun k _ => ?_
        rw [show column + 2 + 2 * k = column + 2 * (k + 1) by omega]
      rw [Nat.forall_lt_succ_left', ← hrest, pairs?, Nat.mul_zero, Nat.add_zero]
      cases field? digits column 2 with
      | none => simp
      | some field =>
          cases hread : Numeral.read? 16 256 (fieldText field) with
          | none => simp [hread]
          | some value => simp [hread]

/-- There are as many bytes as pairs. -/
lemma length_of_pairs? {digits values : List UInt8} {column count : ℕ}
    (h : pairs? digits column count = some values) : values.length = count := by
  induction count generalizing column values with
  | zero =>
      obtain rfl := Option.some.inj h
      rfl
  | succ count ih =>
      rw [pairs?] at h
      split at h
      · cases h
      split at h
      · cases h
      · obtain ⟨rest, hrest, rfl⟩ := Option.map_eq_some_iff.mp h
        rw [List.length_cons, ih hrest]

/-- Where the pairs are numerals, no character is cut in two by them. -/
lemma startsCharacter_of_pairs {digits : List UInt8} {count : ℕ}
    (hlength : digits.length = 2 * count)
    (h : ∀ k < count, (Numeral.read? 16 256 (pair digits k)).isSome) {k : ℕ} (hk : k ≤ count) :
    startsCharacter digits (2 * k) = true := by
  rcases Nat.lt_or_eq_of_le hk with hlt | rfl
  · have hcolumn : 2 * k < digits.length := by omega
    have hmem : digits[2 * k] ∈ (digits.drop (2 * k)).take 2 := by
      rw [List.drop_eq_getElem_cons hcolumn]
      exact List.mem_cons_self
    have hsmall := ascii_of_fieldText (Numeral.ascii_of_isSome_read? (by decide) (h k hlt)) _ hmem
    rw [startsCharacter, List.getElem?_eq_getElem hcolumn]
    simp only [isContinuation_eq_false (.inl hsmall), Bool.not_false]
  · rw [startsCharacter, List.getElem?_eq_none_iff.mpr (Nat.le_of_eq hlength)]
    simp only [hlength, beq_self_eq_true]

/-- A row has bytes exactly if all its pairs are numerals. -/
lemma isSome_pairs?_iff {digits : List UInt8} {count : ℕ} (hlength : digits.length = 2 * count) :
    (pairs? digits 0 count).isSome ↔
      ∀ k < count, (Numeral.read? 16 256 (pair digits k)).isSome := by
  rw [isSome_pairs?_iff_field?]
  simp only [Nat.zero_add]
  constructor
  · intro h k hk
    obtain ⟨field, hfield, hread⟩ := h k hk
    rwa [eq_of_field? hfield] at hread
  · intro h k hk
    -- numerals are ASCII texts, so the columns of a pair are those of characters
    refine ⟨_, ?_, h k hk⟩
    rw [field?, startsCharacter_of_pairs hlength h (Nat.le_of_lt hk),
      show 2 * k + 2 = 2 * (k + 1) from rfl, startsCharacter_of_pairs hlength h hk]
    rfl

/-- Bytes are taken of a row exactly if the digits' columns cut no character in
two and have two digits for each byte, or a plus sign and one. -/
lemma values_ne_nil_iff {line : List Char} (hhead : (trimReturns line).head? = some '/')
    (hlength : (encode (trimReturns line)).length = length) :
    (ofLine line).values ≠ [] ↔
      ∃ digits, field? (encode (trimReturns line)) firstColumn (2 * bytesPerRow) = some digits ∧
        ∀ k < bytesPerRow, Numeral.AllDigits 16 (pair digits k) ∨
          Numeral.Signed 16 256 (pair digits k) := by
  rw [ofLine]
  simp only [hhead, hlength, and_self, if_true]
  cases hfield : field? (encode (trimReturns line)) firstColumn (2 * bytesPerRow) with
  | none => simp [values]
  | some digits =>
      have hwidth : digits.length = 2 * bytesPerRow := length_of_field? hfield
      have hpair {k : ℕ} (hk : k < bytesPerRow) : (pair digits k).length = 2 := by
        rw [pair, fieldText, List.length_map, List.length_take, List.length_drop]
        omega
      have hread : (pairs? digits 0 bytesPerRow).isSome ↔
          ∀ k < bytesPerRow, Numeral.AllDigits 16 (pair digits k) ∨
            Numeral.Signed 16 256 (pair digits k) := by
        rw [isSome_pairs?_iff hwidth]
        refine forall₂_congr fun k hk => Numeral.isSome_read?_iff_of_length (by decide) ?_ ?_
        · rw [← List.length_pos_iff, hpair hk]
          decide
        · rw [hpair hk]
          decide
      simp only [Option.some.injEq, exists_eq_left', ← hread]
      cases hpairs : pairs? digits 0 bytesPerRow with
      | none => simp [values]
      | some bytes =>
          have hbytes : bytes.length = bytesPerRow := length_of_pairs? hpairs
          refine iff_of_true (fun hnil => ?_) rfl
          rw [show bytes = [] from hnil] at hbytes
          cases hbytes

end DumpRow

/-! ### Fields of records -/

namespace SRecord

variable {record : List UInt8}

/-- A field with other characters than digits has a number exactly if it is
signed. -/
lemma isSome_number?_iff_signed {f : Field} {bytes : List UInt8}
    (hbytes : f.bytes? record = some bytes) (hother : ¬ Numeral.AllDigits 16 (fieldText bytes)) :
    (f.number? record).isSome ↔ Numeral.Signed 16 65536 (fieldText bytes) := by
  rw [Field.number?, hbytes, Option.bind_some]
  exact Numeral.isSome_read?_iff_signed (by decide) hother

/-- Behind fields with numbers, such a field is the first fault if it is not
signed; else the fields behind it have the first fault. -/
lemma firstFault?_of_other {front back : List Field} {f : Field} {bytes : List UInt8}
    (hfields : fields record = front ++ f :: back)
    (hfront : ∀ g ∈ front, (g.number? record).isSome) (hbytes : f.bytes? record = some bytes)
    (hother : ¬ Numeral.AllDigits 16 (fieldText bytes)) :
    (¬ Numeral.Signed 16 65536 (fieldText bytes) → firstFault? record = some f) ∧
      (Numeral.Signed 16 65536 (fieldText bytes) →
        firstFault? record = faultIn? record back) := by
  have hbehind : firstFault? record = faultIn? record (f :: back) := by
    have hpassed := faultIn?_eq_none_iff.mpr hfront
    rw [faultIn?] at hpassed
    rw [firstFault?, hfields, faultIn?, List.find?_append, hpassed, Option.none_or, faultIn?]
  rw [hbehind, ← isSome_number?_iff_signed hbytes hother]
  cases hnumber : f.number? record with
  | none =>
      refine ⟨fun _ => faultIn?_cons_of_none hnumber back, fun hsome => ?_⟩
      cases hsome
  | some value =>
      exact ⟨fun hnone => absurd rfl hnone, fun _ => faultIn?_cons_of_some hnumber back⟩

end SRecord

/-! ### Numerals that are refused -/

/-- **What is read without being digits.** A text with other characters than
digits is refused unless it is a plus sign with digits behind it. So is a field of
a record that reading gets to, if the fields in front of it have numbers: the
record is told to have bad digits, which one with a sign is only for a later
field. Bytes are taken of a row of a dump exactly if its columns cut no character
in two and have, for each byte, two digits or a sign and a digit. And an address
is refused exactly if what should be its digits is not signed. -/
theorem refused_iff_not_signed (text line : List Char) (address : String) :
    (∀ n record, SRecord.Reaches text n record → ['S'] <+: record → ∀ front f back bytes,
      SRecord.fields (encode record) = front ++ f :: back →
      (∀ g ∈ front, (g.number? (encode record)).isSome) →
      f.bytes? (encode record) = some bytes → ¬ Numeral.AllDigits 16 (fieldText bytes) →
      ((Image.ofSRecords text).error? = some (.badHex (n + 1)) ↔
        (Numeral.Signed 16 65536 (fieldText bytes) →
          ∃ g, SRecord.faultIn? (encode record) back = some g ∧
            (g.bytes? (encode record)).isSome))) ∧
    ((DumpRow.trimReturns line).head? = some '/' →
      (encode (DumpRow.trimReturns line)).length = DumpRow.length →
      ((DumpRow.ofLine line).values ≠ [] ↔
        ∃ digits, field? (encode (DumpRow.trimReturns line)) DumpRow.firstColumn
            (2 * DumpRow.bytesPerRow) = some digits ∧
          ∀ k < DumpRow.bytesPerRow, Numeral.AllDigits 16 (DumpRow.pair digits k) ∨
            Numeral.Signed 16 256 (DumpRow.pair digits k))) ∧
    (∀ digits, Address.hexadecimal? address.toList = some digits → ¬ Numeral.AllDigits 16 digits →
      (readAddress address = .error (.invalidAddress address) ↔
        ¬ Numeral.Signed 16 65536 digits)) ∧
    (Address.hexadecimal? address.toList = none → ¬ Numeral.AllDigits 10 address.toList →
      (readAddress address = .error (.invalidAddress address) ↔
        ¬ Numeral.Signed 10 65536 address.toList)) := by
  refine ⟨?_, DumpRow.values_ne_nil_iff, ?_, ?_⟩
  · intro n record hreaches hrecord front f back bytes hfields hfront hbytes hother
    have hmark : (encode record)[0]? = some 'S'.toUInt8 := by
      obtain ⟨tail, rfl⟩ := hrecord
      rfl
    obtain ⟨hplain, hsigned⟩ := SRecord.firstFault?_of_other hfields hfront hbytes hother
    rw [SRecord.error?_badHex_iff hreaches hmark]
    by_cases hs : Numeral.Signed 16 65536 (fieldText bytes)
    · rw [hsigned hs]
      exact ⟨fun h _ => h, fun h => h hs⟩
    · rw [hplain hs]
      exact iff_of_true ⟨f, rfl, Option.isSome_iff_exists.mpr ⟨bytes, hbytes⟩⟩ (absurd · hs)
  · intro digits hdigits hother
    rw [Address.readAddress_eq_error_iff, Address.value?, hdigits]
    exact not_congr (Numeral.isSome_read?_iff_signed (by decide) hother)
  · intro hdecimal hother
    rw [Address.readAddress_eq_error_iff, Address.value?, hdecimal]
    exact not_congr (Numeral.isSome_read?_iff_signed (by decide) hother)

/-- A record with a letter in its payload that is no digit. -/
def SRecord.letterPair : List Char := "S1050000060Z5F6".toList

/-- A row of sixteen bytes. -/
def DumpRow.plainRow : List Char := "/E000:   06054F5F97401E0012345678ABCDEF01 .".toList

/-- The record and two addresses with letters that are no digits are refused, and
the bytes of the row are taken. -/
theorem refused_iff_not_signed_letters :
    SRecord.Reaches SRecord.letterPair 0 SRecord.letterPair ∧
      SRecord.fields (encode SRecord.letterPair) =
        [SRecord.countField, SRecord.addressField, ⟨8, 2⟩] ++ ⟨10, 2⟩ :: [] ∧
      (Image.ofSRecords SRecord.letterPair).error? = some (.badHex 1) ∧
      (DumpRow.ofLine DumpRow.plainRow).values ≠ [] ∧
      readAddress "$1G" = .error (.invalidAddress "$1G") ∧
      readAddress "1F" = .error (.invalidAddress "1F") := by
  have hreaches : SRecord.Reaches SRecord.letterPair 0 SRecord.letterPair :=
    ⟨[], [], SRecord.letterPair, [], by decide, .nil 1, rfl, by decide⟩
  have hfields : SRecord.fields (encode SRecord.letterPair) =
      [SRecord.countField, SRecord.addressField, ⟨8, 2⟩] ++ ⟨10, 2⟩ :: [] := by
    decide +kernel
  obtain ⟨hrecord, hrow, hhex, -⟩ :=
    refused_iff_not_signed SRecord.letterPair DumpRow.plainRow "$1G"
  obtain ⟨-, -, -, hdecimal⟩ := refused_iff_not_signed SRecord.letterPair DumpRow.plainRow "1F"
  refine ⟨hreaches, hfields, ?_, ?_, ?_, ?_⟩
  · exact (hrecord _ _ hreaches (by decide) _ _ _ (encode ['0', 'Z']) hfields
      (by decide +kernel) (by decide +kernel) (by decide +kernel)).mpr
      fun hs => absurd hs (Numeral.not_signed_cons (by decide))
  · have hdigits : ∀ k < 16, Numeral.AllDigits 16
        (DumpRow.pair (encode ((DumpRow.plainRow.drop 9).take 32)) k) := by
      decide +kernel
    exact (hrow (by decide +kernel) (by decide +kernel)).mpr
      ⟨_, by decide +kernel, fun k hk => .inl (hdigits k hk)⟩
  · exact (hhex ['1', 'G'] (by decide +kernel) (by decide)).mpr
      (Numeral.not_signed_cons (by decide))
  · exact (hdecimal (by decide +kernel) (by decide +kernel)).mpr
      (Numeral.not_signed_cons (by decide))

/-- A record with a plus sign in its payload. -/
def SRecord.signedPair : List Char := "S1040000+5F6".toList

/-- A row with a plus sign in its first pair. -/
def DumpRow.signedRow : List Char := "/E000:   +6054F5F97401E0012345678ABCDEF01 .".toList

/-- The record is accepted, the bytes of the row are taken, and an address with a
plus sign is read. -/
theorem accepted_of_signed :
    SRecord.Reaches SRecord.signedPair 0 SRecord.signedPair ∧
      SRecord.fields (encode SRecord.signedPair) =
        [SRecord.countField, SRecord.addressField, ⟨8, 2⟩] ∧
      SRecord.countField.bytes? (encode SRecord.signedPair) = some (encode ['0', '4']) ∧
      SRecord.addressField.bytes? (encode SRecord.signedPair) = some (encode ['0', '0', '0', '0']) ∧
      (⟨8, 2⟩ : SRecord.Field).bytes? (encode SRecord.signedPair) = some (encode ['+', '5']) ∧
      '+' ∉ Numeral.characters 16 ∧
      (Image.ofSRecords SRecord.signedPair).error? = none ∧
      (DumpRow.trimReturns DumpRow.signedRow).head? = some '/' ∧
      (encode (DumpRow.trimReturns DumpRow.signedRow)).length = DumpRow.length ∧
      '+' ∈ (DumpRow.signedRow.drop 9).take 32 ∧ (DumpRow.ofLine DumpRow.signedRow).values ≠ [] ∧
      readAddress "$+10" = .ok 0x10 :=
  ⟨⟨[], [], SRecord.signedPair, [], by decide, .nil 1, rfl, by decide⟩, by decide +kernel,
    by decide +kernel, by decide +kernel, by decide +kernel, by decide, by decide +kernel,
    by decide +kernel, by decide +kernel, by decide, by decide +kernel, rfl⟩

end M68HC11
