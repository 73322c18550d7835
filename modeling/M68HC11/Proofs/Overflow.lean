import M68HC11.Alu
import Mathlib.Algebra.Ring.Int.Defs
import Mathlib.Tactic.Common

/-!
What the condition codes tell of a sum or a difference.

A result is kept modulo a power of two. The carry tells whether the exact
result, taken of numbers without a sign, is out of range, the overflow flag
whether it is out of range for numbers in two's complement, and the sign flag
is the sign of what is kept.

* `twosComplement`, `FitsSigned`: numbers in two's complement and their range,
  for every modulus;
* `ConditionCodes.Tell`: condition codes that tell the truth about a result,
  whatever its width, so that results of several bytes and of words can be set
  side by side (`ConditionCodes.Tell.unique`);
* `tell_add`, `tell_subtract`, `tell_addWord`, `tell_subtractWord`: the four
  sums and differences do. That the signs of operands and result are enough to
  find an overflow is `overflow_sum` and `overflow_difference`, for both
  widths.
-/

namespace M68HC11

/-! ### Two's complement -/

/-- The number that `value` stands for in two's complement modulo
`modulus`. -/
def twosComplement (modulus value : Nat) : Int :=
  if 2 * value < modulus then value else (value : Int) - modulus

/-- Whether a number can be written in two's complement modulo `modulus`. -/
def FitsSigned (modulus : Nat) (z : Int) : Prop := -(modulus : Int) ≤ 2 * z ∧ 2 * z < modulus

instance (modulus : Nat) (z : Int) : Decidable (FitsSigned modulus z) :=
  inferInstanceAs (Decidable (_ ∧ _))

lemma isNegative_iff (value : UInt8) : isNegative value = true ↔ 128 ≤ value.toNat := by
  simp [isNegative, UInt8.le_iff_toNat_le]

lemma isNegativeWord_iff (value : UInt16) :
    isNegativeWord value = true ↔ 32768 ≤ value.toNat := by
  simp [isNegativeWord, UInt16.le_iff_toNat_le]

/-- A sum is out of range exactly if the operands have one sign and the sum
has the other. -/
lemma overflow_sum (half : Nat) {left right carry value : Nat} (hleft : left < 2 * half)
    (hright : right < 2 * half) (hcarry : carry ≤ 1) (hvalue : value < 2 * half)
    (hsum : left + right + carry = value ∨ left + right + carry = value + 2 * half) :
    ((half ≤ left ↔ half ≤ right) ∧ ¬(half ≤ value ↔ half ≤ left)) ↔
      ¬FitsSigned (2 * half)
        (twosComplement (2 * half) left + (twosComplement (2 * half) right + carry)) := by
  unfold FitsSigned twosComplement
  split <;> split <;> omega

/-- A difference is out of range exactly if the operands have different signs
and the difference has the sign of what was subtracted. -/
lemma overflow_difference (half : Nat) {left right borrow value : Nat} (hleft : left < 2 * half)
    (hright : right < 2 * half) (hborrow : borrow ≤ 1) (hvalue : value < 2 * half)
    (hdifference : left = value + right + borrow ∨ left + 2 * half = value + right + borrow) :
    (¬(half ≤ left ↔ half ≤ right) ∧ (half ≤ right ↔ half ≤ value)) ↔
      ¬FitsSigned (2 * half)
        (twosComplement (2 * half) left - (twosComplement (2 * half) right + borrow)) := by
  unfold FitsSigned twosComplement
  split <;> split <;> omega

/-! ### Codes that tell the truth -/

namespace ConditionCodes

/-- Condition codes that tell the truth about a result kept modulo `modulus`,
of which `raw` is the exact value for numbers without a sign and `signed` that
for numbers in two's complement. -/
structure Tell (cc : ConditionCodes) (modulus : Nat) (raw signed : Int) : Prop where
  carry : cc.c = true ↔ ¬(0 ≤ raw ∧ raw < modulus)
  negative : cc.n = true ↔ (modulus : Int) ≤ 2 * (raw % modulus)
  overflow : cc.v = true ↔ ¬FitsSigned modulus signed

/-- Codes that tell of the same result are the same. -/
lemma Tell.unique {cc cc' : ConditionCodes} {modulus : Nat} {raw signed : Int}
    (h : cc.Tell modulus raw signed) (h' : cc'.Tell modulus raw signed) :
    cc.c = cc'.c ∧ cc.n = cc'.n ∧ cc.v = cc'.v :=
  ⟨Bool.eq_iff_iff.mpr (h.carry.trans h'.carry.symm),
    Bool.eq_iff_iff.mpr (h.negative.trans h'.negative.symm),
    Bool.eq_iff_iff.mpr (h.overflow.trans h'.overflow.symm)⟩

end ConditionCodes

section Sums

variable (cc : ConditionCodes)

/-- The sum of two bytes and a carry. -/
lemma toNat_add (left right : UInt8) (carry : Bool) :
    ((add cc left right carry).1.toNat : Int) =
      ((left.toNat : Int) + (right.toNat + carry.toNat)) % 256 := by
  rw [← add_assoc]
  exact Fold.toNat_byte _

/-- The difference of two bytes, less a borrow. -/
lemma toNat_subtract (left right : UInt8) (borrow : Bool) :
    ((subtract cc left right borrow).1.toNat : Int) =
      ((left.toNat : Int) - (right.toNat + borrow.toNat)) % 256 := by
  rw [← sub_sub]
  exact Fold.toNat_byte _

/-- The sum of two words. -/
lemma toNat_addWord (left right : UInt16) :
    ((addWord cc left right).1.toNat : Int) = ((left.toNat : Int) + right.toNat) % 65536 :=
  Fold.toNat_word _

/-- The difference of two words. -/
lemma toNat_subtractWord (left right : UInt16) :
    ((subtractWord cc left right).1.toNat : Int) = ((left.toNat : Int) - right.toNat) % 65536 :=
  Fold.toNat_word _

/-- The codes of a sum of bytes tell the truth. -/
lemma tell_add (left right : UInt8) (carry : Bool) :
    (add cc left right carry).2.Tell 256 (left.toNat + (right.toNat + carry.toNat))
      (twosComplement 256 left.toNat + (twosComplement 256 right.toNat + carry.toNat)) := by
  have hleft := left.toNat_lt
  have hright := right.toNat_lt
  have hcarry := carry.toNat_le
  have hlt := (add cc left right carry).1.toNat_lt
  have hvalue := toNat_add cc left right carry
  refine ⟨?_, (isNegative_iff (add cc left right carry).1).trans ?_, ?_⟩
  · simp only [add, decide_eq_true_eq]
    omega
  · omega
  · rw [← overflow_sum 128 hleft hright hcarry hlt (by omega)]
    simp only [← isNegative_iff, ← Bool.eq_iff_iff]
    simp [add]

/-- The codes of a difference of bytes tell the truth. -/
lemma tell_subtract (left right : UInt8) (borrow : Bool) :
    (subtract cc left right borrow).2.Tell 256 (left.toNat - (right.toNat + borrow.toNat))
      (twosComplement 256 left.toNat - (twosComplement 256 right.toNat + borrow.toNat)) := by
  have hleft := left.toNat_lt
  have hright := right.toNat_lt
  have hborrow := borrow.toNat_le
  have hlt := (subtract cc left right borrow).1.toNat_lt
  have hvalue := toNat_subtract cc left right borrow
  refine ⟨?_, (isNegative_iff (subtract cc left right borrow).1).trans ?_, ?_⟩
  · simp only [subtract, decide_eq_true_eq]
    omega
  · omega
  · rw [← overflow_difference 128 hleft hright hborrow hlt (by omega)]
    simp only [← isNegative_iff, ← Bool.eq_iff_iff]
    simp [subtract]

/-- The codes of a sum of words tell the truth. -/
lemma tell_addWord (left right : UInt16) :
    (addWord cc left right).2.Tell 65536 (left.toNat + right.toNat)
      (twosComplement 65536 left.toNat + twosComplement 65536 right.toNat) := by
  have hleft := left.toNat_lt
  have hright := right.toNat_lt
  have hlt := (addWord cc left right).1.toNat_lt
  have hvalue := toNat_addWord cc left right
  have hsigned := overflow_sum 32768 hleft hright (Nat.zero_le 1) hlt (by omega)
  refine ⟨?_, (isNegativeWord_iff (addWord cc left right).1).trans ?_, ?_⟩
  · simp only [addWord, decide_eq_true_eq]
    omega
  · omega
  · simp only [Int.natCast_zero, add_zero] at hsigned
    rw [← hsigned]
    simp only [← isNegativeWord_iff, ← Bool.eq_iff_iff]
    simp [addWord]

/-- The codes of a difference of words tell the truth. -/
lemma tell_subtractWord (left right : UInt16) :
    (subtractWord cc left right).2.Tell 65536 (left.toNat - right.toNat)
      (twosComplement 65536 left.toNat - twosComplement 65536 right.toNat) := by
  have hleft := left.toNat_lt
  have hright := right.toNat_lt
  have hlt := (subtractWord cc left right).1.toNat_lt
  have hvalue := toNat_subtractWord cc left right
  have hsigned := overflow_difference 32768 hleft hright (Nat.zero_le 1) hlt (by omega)
  refine ⟨?_, (isNegativeWord_iff (subtractWord cc left right).1).trans ?_, ?_⟩
  · simp only [subtractWord, decide_eq_true_eq]
    omega
  · omega
  · simp only [Int.natCast_zero, add_zero] at hsigned
    rw [← hsigned]
    simp only [← isNegativeWord_iff, ← Bool.eq_iff_iff]
    simp [subtractWord]

end Sums

end M68HC11
