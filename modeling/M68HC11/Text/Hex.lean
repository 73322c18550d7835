import M68HC11.Word

/-!
Hexadecimal text of bytes, words and numbers.

* `byte` and `word` have a fixed width of two and four digits, so the text
  of a byte or word tells it apart from every other one; `number` has as many
  digits as it needs and no leading zero.
* `digit_inj`: each of the sixteen values has a digit of its own.
-/

namespace M68HC11.Text.Hex

/-- Whether the digits above nine are small or capital letters. -/
inductive Letters
  | small
  | capital
  deriving DecidableEq, Repr

/-- The digit for a value below sixteen. -/
def digit (letters : Letters) (value : Nat) : Char :=
  if value < 10 then Char.ofNat (48 + value)
  else match letters with
    | .small => Char.ofNat (87 + value)
    | .capital => Char.ofNat (55 + value)

/-- The two digits of a byte. -/
def byte (letters : Letters) (b : UInt8) : List Char :=
  [digit letters (b.toNat / 16), digit letters (b.toNat % 16)]

/-- The four digits of a word. -/
def word (letters : Letters) (w : UInt16) : List Char :=
  byte letters (Word.high w) ++ byte letters (Word.low w)

/-- The digits of a number, in small letters and without leading zeros. -/
def number (n : Nat) : List Char := Nat.toDigits 16 n

/-- A byte in small digits, behind the marker of hexadecimal numbers. -/
def markedByte (b : UInt8) : List Char := '0' :: 'x' :: byte .small b

/-- A word in small digits, behind the marker of hexadecimal numbers. -/
def markedWord (w : UInt16) : List Char := '0' :: 'x' :: word .small w

/-- A number in small digits, behind the marker of hexadecimal numbers. -/
def markedNumber (n : Nat) : List Char := '0' :: 'x' :: number n

/-- Values below sixteen have different digits. -/
theorem digit_inj (letters : Letters) :
    ∀ a < 16, ∀ b < 16, digit letters a = digit letters b → a = b := by
  cases letters <;> decide

end M68HC11.Text.Hex
