/-!
Reading numerals in a given radix.

A numeral is an optional plus sign and then one or more digits; letters count
as digits above nine in either case. A numeral is read only if its value lies
below a limit.

* `digit?` gives the value of one digit, `value?` that of a row of digits and
  `read?` that of a numeral;
* `read?_lt`: a value that is read lies below the limit.
-/

namespace M68HC11.Text.Numeral

/-- The value of a character as a digit of the given radix. -/
def digit? (radix : Nat) (c : Char) : Option Nat :=
  let value :=
    if '0' ≤ c ∧ c ≤ '9' then some (c.toNat - 48)
    else if 'a' ≤ c ∧ c ≤ 'z' then some (c.toNat - 87)
    else if 'A' ≤ c ∧ c ≤ 'Z' then some (c.toNat - 55)
    else none
  value.filter (· < radix)

/-- The value of a row of digits that follows digits of the value `start`. -/
def valueFrom? (radix start : Nat) : List Char → Option Nat
  | [] => some start
  | c :: cs => (digit? radix c).bind fun d => valueFrom? radix (start * radix + d) cs

/-- The value of a row of digits, all of which must be digits of the radix. -/
def value? (radix : Nat) (digits : List Char) : Option Nat := valueFrom? radix 0 digits

/-- The digits of a numeral, which may stand behind one plus sign. -/
def digits : List Char → List Char
  | '+' :: rest => rest
  | text => text

/-- The value of a numeral below the limit. -/
def read? (radix limit : Nat) (text : List Char) : Option Nat :=
  if (digits text).isEmpty then none
  else (value? radix (digits text)).filter (· < limit)

/-- Only values below the limit are read. -/
theorem read?_lt {radix limit n : Nat} {text : List Char}
    (h : read? radix limit text = some n) : n < limit := by
  unfold read? at h
  split at h
  · exact absurd h (by simp)
  · simpa using (Option.filter_eq_some_iff.mp h).2

end M68HC11.Text.Numeral
