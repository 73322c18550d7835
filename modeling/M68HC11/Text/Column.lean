/-!
Columns of text: padding to a width in characters, and the fields of a line
whose columns are counted in the bytes of its encoded form.

* `padRight`: a text followed by as many blanks as it needs to fill a column;
* `encode`: the bytes of a text, one to four for each character;
* `field?`: the bytes in a range of columns, which must not cut a character
  in two; `length_of_field?` gives its length.
-/

namespace M68HC11.Text

/-- A text padded with blanks to a width; a text that is wider stays as it
is. -/
def padRight (width : Nat) (text : List Char) : List Char :=
  text ++ List.replicate (width - text.length) ' '

/-- The bytes that encode a text. -/
def encode (text : List Char) : List UInt8 := text.flatMap String.utf8EncodeChar

/-- Whether a byte continues a character that an earlier byte has begun. -/
def isContinuation (b : UInt8) : Bool := 0x80 ≤ b && b < 0xC0

/-- Whether a character begins, or the line ends, at a column. -/
def startsCharacter (row : List UInt8) (column : Nat) : Bool :=
  match row[column]? with
  | none => column == row.length
  | some b => !isContinuation b

/-- The bytes of a line in the `width` columns from `start` on, if the line
has them all and the range cuts no character in two. -/
def field? (line : List UInt8) (start width : Nat) : Option (List UInt8) :=
  if startsCharacter line start && startsCharacter line (start + width) then
    some ((line.drop start).take width)
  else none

/-- A field is as wide as its columns. -/
theorem length_of_field? {line field : List UInt8} {start width : Nat}
    (h : field? line start width = some field) : field.length = width := by
  have hend : ∀ column, startsCharacter line column = true → column ≤ line.length := by
    intro column hc
    unfold startsCharacter at hc
    split at hc
    · simp_all
    · next hb => exact Nat.le_of_lt (List.getElem?_eq_some_iff.mp hb).1
  unfold field? at h
  split at h
  · next hs =>
    simp only [Bool.and_eq_true] at hs
    have := hend _ hs.2
    obtain rfl := Option.some.inj h
    simp only [List.length_take, List.length_drop]
    omega
  · exact absurd h (by simp)

/-- The characters of a field, each byte taken as a character of its own. -/
def fieldText (field : List UInt8) : List Char := field.map fun b => Char.ofNat b.toNat

end M68HC11.Text
