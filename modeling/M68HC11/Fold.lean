/-!
Folding a raw arithmetic result back into range.

A sum or difference of register values is first computed without a bound and
then brought into the range of the register by adding or subtracting the
modulus as often as needed.

* `raise` adds the modulus until the value is not negative, `lower`
  subtracts it until the value is below the modulus, and `fold` does one
  after the other;
* `fold_eq_emod`: folding is the Euclidean remainder, so a folded value
  always fits the register (`fold_nonneg`, `fold_lt`).
-/

namespace M68HC11.Fold

/-- Adds the modulus until the value is not negative. -/
def raise (modulus : Nat) (hpos : 0 < modulus) (value : Int) : Int :=
  if value < 0 then raise modulus hpos (value + modulus) else value
termination_by (-value).toNat

/-- Subtracts the modulus until the value is below it. -/
def lower (modulus : Nat) (hpos : 0 < modulus) (value : Int) : Int :=
  if (modulus : Int) ≤ value then lower modulus hpos (value - modulus) else value
termination_by value.toNat

/-- Brings a value into the range from zero to the modulus. -/
def fold (modulus : Nat) (hpos : 0 < modulus) (value : Int) : Int :=
  lower modulus hpos (raise modulus hpos value)

/-- Raising keeps the remainder. -/
theorem raise_emod (m : Nat) (hpos : 0 < m) (z : Int) : raise m hpos z % m = z % m := by
  fun_induction raise m hpos z with
  | case1 z _ ih => rw [ih, Int.add_emod_right]
  | case2 => rfl

/-- A raised value is not negative. -/
theorem raise_nonneg (m : Nat) (hpos : 0 < m) (z : Int) : 0 ≤ raise m hpos z := by
  fun_induction raise m hpos z with
  | case1 _ _ ih => exact ih
  | case2 _ h => omega

/-- Lowering a value that is not negative gives its remainder. -/
theorem lower_eq_emod (m : Nat) (hpos : 0 < m) {z : Int} (hz : 0 ≤ z) :
    lower m hpos z = z % m := by
  fun_induction lower m hpos z with
  | case1 z h ih => rw [ih (by omega), Int.sub_emod_right]
  | case2 z h => rw [Int.emod_eq_of_lt hz (by omega)]

/-- Folding is the Euclidean remainder. -/
theorem fold_eq_emod (m : Nat) (hpos : 0 < m) (z : Int) : fold m hpos z = z % m := by
  rw [fold, lower_eq_emod m hpos (raise_nonneg m hpos z), raise_emod]

/-- A folded value is not negative. -/
theorem fold_nonneg (m : Nat) (hpos : 0 < m) (z : Int) : 0 ≤ fold m hpos z := by
  rw [fold_eq_emod]
  exact Int.emod_nonneg z (by omega)

/-- A folded value is below the modulus. -/
theorem fold_lt (m : Nat) (hpos : 0 < m) (z : Int) : fold m hpos z < m := by
  rw [fold_eq_emod]
  exact Int.emod_lt_of_pos z (by omega)

/-- A raw result folded into a byte. -/
def byte (raw : Int) : UInt8 := UInt8.ofNat (fold 256 (by decide) raw).toNat

/-- A raw result folded into a word. -/
def word (raw : Int) : UInt16 := UInt16.ofNat (fold 65536 (by decide) raw).toNat

/-- The byte that a raw result folds into is its remainder modulo 256. -/
theorem toNat_byte (raw : Int) : ((byte raw).toNat : Int) = raw % 256 := by
  have h := fold_eq_emod 256 (by decide) raw
  simp only [byte, UInt8.toNat_ofNat']
  omega

/-- The word that a raw result folds into is its remainder modulo 65536. -/
theorem toNat_word (raw : Int) : ((word raw).toNat : Int) = raw % 65536 := by
  have h := fold_eq_emod 65536 (by decide) raw
  simp only [word, UInt16.toNat_ofNat']
  omega

end M68HC11.Fold
