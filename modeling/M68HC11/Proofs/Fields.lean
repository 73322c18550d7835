import M68HC11.Proofs.Failures
import M68HC11.Proofs.Numerals

/-!
The fields of records, and the records that reading a text gets to.

* `SRecord.fields`: the fields that are read of a record, by their columns, and
  `SRecord.firstFault?` the first of them without a number;
* `SRecord.Reads`: reading fields in order, with an error about the first one
  without a number; `SRecord.reads_ofLine` says that a record is read so;
* `SRecord.Reaches`: the record on a line in front of which all lines pass, of
  which `SRecord.error?_iff_of_reaches` says that its error is that of the text.
-/

namespace M68HC11

open Text

namespace SRecord

/-! ### The fields of a record -/

/-- A field of a record, by the column in which it begins and its width. -/
structure Field where
  start : ℕ
  width : ℕ
  deriving DecidableEq

namespace Field

/-- The bytes of a field, if the record has them all. -/
def bytes? (f : Field) (record : List UInt8) : Option (List UInt8) :=
  field? record f.start f.width

/-- The number in a field. -/
def number? (f : Field) (record : List UInt8) : Option ℕ :=
  (f.bytes? record).bind fun bytes => Numeral.read? 16 65536 (fieldText bytes)

/-- What is wrong about a field without a number: its characters, or that the
record does not have them all. -/
def fault (f : Field) (line : ℕ) (record : List UInt8) : ImageError :=
  if (f.bytes? record).isSome then .badHex line else .truncatedRecord line

/-- A fault tells its line. -/
lemma line?_fault (f : Field) (line : ℕ) (record : List UInt8) :
    (f.fault line record).line? = some line := by
  rw [fault]
  split <;> rfl

end Field

/-- The field with the count of a record of type 1. -/
def countField : Field := ⟨2, 2⟩

/-- The field with an address. -/
def addressField : Field := ⟨4, 4⟩

/-- The fields of so many bytes from a column on. -/
def pairFields (start count : ℕ) : List Field := (List.range' start count 2).map fun s => ⟨s, 2⟩

/-- The fields that are read of a record, in order; nothing is read behind a
count that is no number. -/
def fields (record : List UInt8) : List Field :=
  if record[1]? = some '1'.toUInt8 then
    countField :: match countField.number? record with
      | none => []
      | some count => addressField :: pairFields 8 (count - 3)
  else if record[1]? = some '9'.toUInt8 then [addressField]
  else []

/-- The first of some fields that has no number. -/
def faultIn? (record : List UInt8) (fs : List Field) : Option Field :=
  fs.find? fun f => (f.number? record).isNone

/-- The first field of a record that has no number. -/
def firstFault? (record : List UInt8) : Option Field := faultIn? record (fields record)

variable {line : ℕ} {record : List UInt8}

lemma faultIn?_cons_of_none {f : Field} (h : f.number? record = none) (fs : List Field) :
    faultIn? record (f :: fs) = some f := by
  rw [faultIn?, List.find?_cons, h]
  rfl

lemma faultIn?_cons_of_some {f : Field} {value : ℕ} (h : f.number? record = some value)
    (fs : List Field) : faultIn? record (f :: fs) = faultIn? record fs := by
  rw [faultIn?, List.find?_cons, h]
  rfl

lemma faultIn?_eq_none_iff {fs : List Field} :
    faultIn? record fs = none ↔ ∀ f ∈ fs, (f.number? record).isSome := by
  simp only [faultIn?, List.find?_eq_none, Bool.not_eq_true, Option.isNone_eq_false_iff]

/-- The fault is one of the fields, and it has no number. -/
lemma number?_of_faultIn? {fs : List Field} {f : Field} (h : faultIn? record fs = some f) :
    f ∈ fs ∧ f.number? record = none :=
  ⟨List.mem_of_find?_eq_some h, by simpa using List.find?_some h⟩

lemma pairFields_succ (start count : ℕ) :
    pairFields start (count + 1) = ⟨start, 2⟩ :: pairFields (start + 2) count := rfl

lemma fields_of_one (h : record[1]? = some '1'.toUInt8) {count : ℕ}
    (hcount : countField.number? record = some count) :
    fields record = countField :: addressField :: pairFields 8 (count - 3) := by
  rw [fields, if_pos h, hcount]

/-- A number is read as it stands in its field. -/
lemma number_of_number? {f : Field} {value : ℕ} (h : f.number? record = some value) :
    number line record f.start f.width = .ok value := by
  obtain ⟨bytes, hbytes, hvalue⟩ := Option.bind_eq_some_iff.mp h
  rw [Field.bytes?] at hbytes
  rw [number, hbytes]
  simp only [hvalue]

/-- A field without a number is refused for what is wrong about it. -/
lemma number_of_number?_eq_none {f : Field} (h : f.number? record = none) :
    number line record f.start f.width = .error (f.fault line record) := by
  rw [Field.number?] at h
  rw [number, Field.fault]
  cases hbytes : f.bytes? record with
  | none =>
      rw [Field.bytes?] at hbytes
      rw [hbytes]
      rfl
  | some bytes =>
      rw [hbytes, Option.bind_some] at h
      rw [Field.bytes?] at hbytes
      rw [hbytes]
      simp only [h]
      rfl

/-- Two digits stand for a byte. -/
lemma number?_lt {start value : ℕ} (h : (⟨start, 2⟩ : Field).number? record = some value) :
    value < 256 := by
  obtain ⟨bytes, hbytes, hvalue⟩ := Option.bind_eq_some_iff.mp h
  have hlt := Numeral.read?_lt_pow (by decide) hvalue
  rwa [fieldText, List.length_map, length_of_field? hbytes] at hlt

/-! ### Fields that are read in order -/

/-- What reading fields one by one comes to: an error about the first one without
a number, or a result if all have one. -/
structure Reads {α : Type} (line : ℕ) (record : List UInt8) (fs : List Field)
    (result : Except ImageError α) : Prop where
  refused : ∀ f, faultIn? record fs = some f → result = .error (f.fault line record)
  passed : faultIn? record fs = none → ∃ a, result = .ok a

namespace Reads

variable {α β : Type} {fs : List Field}

lemma nil (a : α) : Reads line record [] (.ok a) := ⟨nofun, fun _ => ⟨a, rfl⟩⟩

/-- A field is read, and what is read next may depend on its number. -/
lemma cons {f : Field} {next : ℕ → Except ImageError α}
    (h : ∀ value, f.number? record = some value → Reads line record fs (next value)) :
    Reads line record (f :: fs)
      (match number line record f.start f.width with
        | .error e => .error e
        | .ok value => next value) := by
  cases hnumber : f.number? record with
  | none =>
      have hfirst := faultIn?_cons_of_none hnumber fs
      rw [number_of_number?_eq_none hnumber]
      refine ⟨fun g hg => ?_, fun hnone => ?_⟩
      · obtain rfl := Option.some.inj (hfirst.symm.trans hg)
        rfl
      · cases hfirst.symm.trans hnone
  | some value =>
      have hlater := faultIn?_cons_of_some hnumber fs
      rw [number_of_number? hnumber]
      exact ⟨fun g hg => (h value hnumber).refused g (hlater.symm.trans hg),
        fun hnone => (h value hnumber).passed (hlater.symm.trans hnone)⟩

/-- What is made of a result changes nothing about the errors. -/
lemma map {result : Except ImageError α} {result' : Except ImageError β}
    (h : Reads line record fs result) (herror : ∀ e, result = .error e → result' = .error e)
    (hok : ∀ a, result = .ok a → ∃ b, result' = .ok b) : Reads line record fs result' := by
  refine ⟨fun f hf => herror _ (h.refused f hf), fun hnone => ?_⟩
  obtain ⟨a, ha⟩ := h.passed hnone
  exact hok a ha

end Reads

/-- A payload is read pair by pair. -/
lemma reads_payload (start count : ℕ) :
    Reads line record (pairFields start count) (payload line record start count) := by
  induction count generalizing start with
  | zero => exact .nil []
  | succ count ih =>
      rw [payload]
      refine .cons fun value hvalue => ?_
      rw [if_pos (number?_lt hvalue)]
      refine (ih (start + 2)).map (fun e he => ?_) fun rest hrest => ?_
      · rw [he]
      · rw [hrest]
        exact ⟨_, rfl⟩

/-- A record of type 1 is read field by field. -/
lemma reads_readData (hone : record[1]? = some '1'.toUInt8) :
    Reads line record (fields record) (readData line record) := by
  rw [fields, if_pos hone]
  refine .cons fun count hcount => ?_
  rw [show countField.number? record = some count from hcount]
  refine .cons fun address _ => ?_
  refine (reads_payload 8 (count - 3)).map (fun e he => ?_) fun bytes hbytes => ?_
  · rw [he]
  · rw [hbytes]
    exact ⟨_, rfl⟩

/-- So is one of type 9. -/
lemma reads_readEntry (hone : record[1]? ≠ some '1'.toUInt8)
    (hnine : record[1]? = some '9'.toUInt8) :
    Reads line record (fields record) (readEntry line record) := by
  rw [fields, if_neg hone, if_pos hnine]
  exact .cons fun address _ => .nil _

/-- A record with its mark is read field by field. -/
lemma reads_ofLine (line : ℕ) (hmark : record[0]? = some 'S'.toUInt8) :
    Reads line record (fields record) (ofLine line record) := by
  rw [ofLine, if_neg (not_not_intro hmark)]
  split
  · next hone => exact reads_readData hone
  split
  · next hone hnine => exact reads_readEntry hone hnine
  · next hone hnine =>
    rw [fields, if_neg hone, if_neg hnine]
    exact .nil _

/-! ### The record that reading gets to -/

/-- Reading a text gets to the record that stands behind its first `n` lines. -/
def Reaches (text : List Char) (n : ℕ) (record : List Char) : Prop :=
  ∃ front blocks last rest, lines text = front ++ last :: rest ∧ Passes 1 front blocks ∧
    front.length = n ∧ trimEnd last = record

/-- A line that is not blank is read as its record. -/
lemma readLine_eq {text : List Char} (hne : trimEnd text ≠ []) :
    readLine line text = ofLine line (encode (trimEnd text)) := by
  rw [readLine, if_neg]
  exact fun hempty => hne (List.isEmpty_iff.mp hempty)

/-- Errors behind a line tell a later one. -/
lemma line?_ne_of_behind {texts : List (List Char)} {e : ImageError}
    (h : (readLines (line + 1) texts).error? = some e) : e.line? ≠ some line := by
  obtain ⟨front, blocks, text, rest, -, -, hread⟩ := exists_of_error h
  rw [line?_of_readLine hread]
  intro hline
  have := Option.some.inj hline
  omega

/-- An error that tells the line of the record is that of the record. -/
lemma error?_iff_of_reaches {text record : List Char} {n : ℕ} (h : Reaches text n record)
    (hne : record ≠ []) {e : ImageError} (he : e.line? = some (n + 1)) :
    (Image.ofSRecords text).error? = some e ↔ ofLine (n + 1) (encode record) = .error e := by
  obtain ⟨front, blocks, last, rest, htext, hfront, rfl, rfl⟩ := h
  rw [Image.ofSRecords, htext, hfront.readLines_append, Image.error?_prepend, Nat.add_comm 1,
    ← readLine_eq hne]
  cases hread : readLine (front.length + 1) last with
  | error e' =>
      rw [readLines_of_error hread, Image.error?_ofEnding, Option.some.injEq, Except.error.injEq]
  | ok r =>
      -- either nothing is read behind the record, or errors there tell a later line
      refine iff_of_false (fun herror => ?_) (fun hread => by cases hread)
      by_cases hon : ∀ address, r ≠ .entry address
      · rw [readLines_of_on hread hon, Image.error?_prepend] at herror
        exact line?_ne_of_behind herror he
      · obtain ⟨address, hentry⟩ := not_forall.mp hon
        obtain rfl := not_not.mp hentry
        rw [readLines_of_entry hread] at herror
        cases herror

/-- A record that reading gets to is refused for its first field without a
number, and only for that. -/
lemma error?_iff_firstFault? {text record : List Char} {n : ℕ} (h : Reaches text n record)
    (hmark : (encode record)[0]? = some 'S'.toUInt8) {e : ImageError}
    (he : e.line? = some (n + 1)) :
    (Image.ofSRecords text).error? = some e ↔
      ∃ f, firstFault? (encode record) = some f ∧ f.fault (n + 1) (encode record) = e := by
  have hne : record ≠ [] := by
    rintro rfl
    cases hmark
  rw [error?_iff_of_reaches h hne he]
  cases hfault : firstFault? (encode record) with
  | none =>
      obtain ⟨r, hr⟩ := (reads_ofLine (n + 1) hmark).passed hfault
      rw [hr]
      simp
  | some f =>
      rw [(reads_ofLine (n + 1) hmark).refused f hfault]
      simp

/-- It is truncated if that field is not there. -/
lemma error?_truncatedRecord_iff {text record : List Char} {n : ℕ} (h : Reaches text n record)
    (hmark : (encode record)[0]? = some 'S'.toUInt8) :
    (Image.ofSRecords text).error? = some (.truncatedRecord (n + 1)) ↔
      ∃ f, firstFault? (encode record) = some f ∧ f.bytes? (encode record) = none := by
  rw [error?_iff_firstFault? h hmark rfl]
  refine exists_congr fun f => and_congr_right fun _ => ?_
  rw [Field.fault]
  cases f.bytes? (encode record) <;> simp

/-- Its characters are at fault if the field is there. -/
lemma error?_badHex_iff {text record : List Char} {n : ℕ} (h : Reaches text n record)
    (hmark : (encode record)[0]? = some 'S'.toUInt8) :
    (Image.ofSRecords text).error? = some (.badHex (n + 1)) ↔
      ∃ f, firstFault? (encode record) = some f ∧ (f.bytes? (encode record)).isSome := by
  rw [error?_iff_firstFault? h hmark rfl]
  refine exists_congr fun f => and_congr_right fun _ => ?_
  rw [Field.fault]
  cases f.bytes? (encode record) <;> simp

end SRecord

end M68HC11
