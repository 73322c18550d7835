import M68HC11.Image.Basic
import M68HC11.Text.Blank
import M68HC11.Text.Column
import M68HC11.Text.Lines
import M68HC11.Text.Numeral

/-!
Images in S-records: lines of text with hexadecimal fields in fixed columns.

A record of type 1 has a count of the bytes behind it, an address and data; a
record of type 9 has the entry address and ends the image. Records of other
types and blank lines are skipped, and the last byte of a record, its
checksum, is not looked at.

* `SRecord.ofLine` reads one line, `Image.ofSRecords` a text.
-/

namespace M68HC11

/-- A record that was read. -/
inductive SRecord
  /-- Data for an address. -/
  | data (address : UInt16) (payload : List UInt8)
  /-- The entry address, behind which nothing is read. -/
  | entry (address : UInt16)
  /-- A record of another type. -/
  | other
  deriving DecidableEq, Repr

namespace SRecord

/-- The number in a field of hexadecimal digits. -/
def number (line : Nat) (record : List UInt8) (start width : Nat) : Except ImageError Nat :=
  match Text.field? record start width with
  | none => .error (.truncatedRecord line)
  | some field =>
    match Text.Numeral.read? 16 65536 (Text.fieldText field) with
    | none => .error (.badHex line)
    | some value => .ok value

/-- The bytes in so many fields of two digits each. -/
def payload (line : Nat) (record : List UInt8) (start : Nat) :
    Nat → Except ImageError (List UInt8)
  | 0 => .ok []
  | count + 1 =>
    match number line record start 2 with
    | .error e => .error e
    | .ok value =>
      if value < 256 then
        match payload line record (start + 2) count with
        | .error e => .error e
        | .ok rest => .ok (UInt8.ofNat value :: rest)
      else .error (.badHex line)

/-- Reads a record of type 1. The count includes the address and the
checksum, three bytes in all. -/
def readData (line : Nat) (record : List UInt8) : Except ImageError SRecord :=
  match number line record 2 2 with
  | .error e => .error e
  | .ok count =>
    match number line record 4 4 with
    | .error e => .error e
    | .ok address =>
      match payload line record 8 (count - 3) with
      | .error e => .error e
      | .ok bytes => .ok (.data (UInt16.ofNat address) bytes)

/-- Reads a record of type 9. -/
def readEntry (line : Nat) (record : List UInt8) : Except ImageError SRecord :=
  match number line record 4 4 with
  | .error e => .error e
  | .ok address => .ok (.entry (UInt16.ofNat address))

/-- Reads the record on a line that is not blank. -/
def ofLine (line : Nat) (record : List UInt8) : Except ImageError SRecord :=
  if record[0]? ≠ some 'S'.toUInt8 then .error (.notSRecord line)
  else if record[1]? = some '1'.toUInt8 then readData line record
  else if record[1]? = some '9'.toUInt8 then readEntry line record
  else .ok .other

/-- Reads the records on lines of which the first has the given number. -/
def readLines (line : Nat) : List (List Char) → Image
  | [] => .ofEnding (.ok none)
  | text :: rest =>
    let record := Text.trimEnd text
    if record.isEmpty then readLines (line + 1) rest
    else match ofLine line (Text.encode record) with
      | .error e => .ofEnding (.error e)
      | .ok (.data address payload) => (readLines (line + 1) rest).cons ⟨address, payload, []⟩
      | .ok (.entry address) => .ofEnding (.ok (some address))
      | .ok .other => readLines (line + 1) rest

end SRecord

/-- The image that a text of records holds. -/
def Image.ofSRecords (text : List Char) : Image := SRecord.readLines 1 (Text.lines text)

end M68HC11
