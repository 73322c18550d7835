import M68HC11.Notice
import M68HC11.Text.Column
import M68HC11.Text.Lines
import M68HC11.Text.Numeral

/-!
Dumps of memory as a monitor program prints them.

A row of a dump begins with a slash and is 43 bytes long; sixteen bytes stand
in it from the tenth column on, with two hexadecimal digits each. Other lines
are skipped, and a row with characters that are no digits is skipped with a
warning.

* `DumpRow.ofLine` reads a line, `HexDump.bytes` and `HexDump.log` are what
  a text comes to.
-/

namespace M68HC11

/-- A line of a dump. -/
inductive DumpRow
  /-- A row with its bytes. -/
  | bytes (values : List UInt8)
  /-- A row with characters that are no digits. -/
  | malformed (row : List Char)
  /-- Any other line. -/
  | other
  deriving DecidableEq, Repr

namespace DumpRow

/-- How long a row is, in bytes. -/
def length : Nat := 43

/-- The column of the first digit. -/
def firstColumn : Nat := 9

/-- How many bytes a row holds. -/
def bytesPerRow : Nat := 16

/-- The bytes of so many pairs of digits from a column on. -/
def pairs? (digits : List UInt8) (column : Nat) : Nat → Option (List UInt8)
  | 0 => some []
  | count + 1 =>
    match Text.field? digits column 2 with
    | none => none
    | some pair =>
      match Text.Numeral.read? 16 256 (Text.fieldText pair) with
      | none => none
      | some value => (pairs? digits (column + 2) count).map (UInt8.ofNat value :: ·)

/-- A line without the carriage returns at its end. -/
def trimReturns (line : List Char) : List Char := (line.reverse.dropWhile (· = '\r')).reverse

/-- Reads a line. A row in which the digits' columns cut a character in two
is no row. -/
def ofLine (line : List Char) : DumpRow :=
  let row := trimReturns line
  let columns := Text.encode row
  if row.head? = some '/' ∧ columns.length = length then
    match Text.field? columns firstColumn (2 * bytesPerRow) with
    | none => other
    | some digits =>
      match pairs? digits 0 bytesPerRow with
      | some values => bytes values
      | none => malformed row
  else other

/-- The bytes of a line. -/
def values : DumpRow → List UInt8
  | bytes values => values
  | _ => []

/-- The warning about a line. -/
def warning? : DumpRow → Option LogEntry
  | malformed row => some (.malformedRow row)
  | _ => none

end DumpRow

namespace HexDump

/-- The lines of a dump. -/
def rows (text : List Char) : List DumpRow := (Text.lines text).map DumpRow.ofLine

/-- The bytes of a dump. -/
def bytes (text : List Char) : List UInt8 := (rows text).flatMap DumpRow.values

/-- The warnings about a dump. -/
def log (text : List Char) : List LogEntry := (rows text).filterMap DumpRow.warning?

end HexDump

end M68HC11
