import M68HC11.ConditionCodes
import M68HC11.Fold
import M68HC11.Isa.Operation
import M68HC11.Word

/-!
Arithmetic on bytes and words, with its effect on the condition codes.

Sums and differences are computed without a bound and folded into the width
of the register (`Fold`), so that carry and borrow can be read off the raw
result. Flags that an operation says nothing about stay as they are.

* `add`, `subtract`, `addWord`, `subtractWord`: sums and differences;
* `Arithmetic.apply`, `Modification.apply`: what an operation on an
  accumulator, or on a byte in place, leaves in the byte and in the flags;
* `decimalAdjust`, `multiply`, `divide`: the operations with rules of their
  own.
-/

namespace M68HC11

/-! ### Flags of a result -/

/-- Whether a byte is negative in two's complement. -/
def isNegative (value : UInt8) : Bool := 0x80 ≤ value

/-- Whether a word is negative in two's complement. -/
def isNegativeWord (value : UInt16) : Bool := 0x8000 ≤ value

namespace ConditionCodes

/-- The flags that tell the sign of a byte. -/
def ofResult (cc : ConditionCodes) (value : UInt8) : ConditionCodes :=
  { cc with n := isNegative value, z := value == 0 }

/-- The flags that tell the sign of a word. -/
def ofResultWord (cc : ConditionCodes) (value : UInt16) : ConditionCodes :=
  { cc with n := isNegativeWord value, z := value == 0 }

/-- The flags after a byte was moved or combined bit by bit: there is no
overflow. -/
def ofData (cc : ConditionCodes) (value : UInt8) : ConditionCodes :=
  { cc.ofResult value with v := false }

/-- The flags after a word was moved: there is no overflow. -/
def ofDataWord (cc : ConditionCodes) (value : UInt16) : ConditionCodes :=
  { cc.ofResultWord value with v := false }

/-- The flags after a byte was shifted: the bit that was shifted out is the
carry, and there is an overflow if sign and carry differ. -/
def ofShift (cc : ConditionCodes) (value : UInt8) (out : Bool) : ConditionCodes :=
  { cc.ofResult value with c := out, v := isNegative value != out }

/-- The flags after a word was shifted. -/
def ofShiftWord (cc : ConditionCodes) (value : UInt16) (out : Bool) : ConditionCodes :=
  { cc.ofResultWord value with c := out, v := isNegativeWord value != out }

end ConditionCodes

/-! ### Sums and differences -/

/-- The sum of two bytes and a carry. -/
def add (cc : ConditionCodes) (left right : UInt8) (carry : Bool) : UInt8 × ConditionCodes :=
  let raw : Int := left.toNat + right.toNat + carry.toNat
  let value := Fold.byte raw
  (value,
    { cc.ofResult value with
      h := 0x0F < left.toNat % 16 + right.toNat % 16 + carry.toNat
      v := isNegative left == isNegative right && isNegative value != isNegative left
      c := 0xFF < raw })

/-- The difference of two bytes, less a borrow. -/
def subtract (cc : ConditionCodes) (left right : UInt8) (borrow : Bool) :
    UInt8 × ConditionCodes :=
  let raw : Int := left.toNat - right.toNat - borrow.toNat
  let value := Fold.byte raw
  (value,
    { cc.ofResult value with
      v := isNegative left != isNegative right && isNegative right == isNegative value
      c := raw < 0 })

/-- The sum of two words. -/
def addWord (cc : ConditionCodes) (left right : UInt16) : UInt16 × ConditionCodes :=
  let raw : Int := left.toNat + right.toNat
  let value := Fold.word raw
  (value,
    { cc.ofResultWord value with
      v := isNegativeWord left == isNegativeWord right &&
        isNegativeWord value != isNegativeWord left
      c := 0xFFFF < raw })

/-- The difference of two words. -/
def subtractWord (cc : ConditionCodes) (left right : UInt16) : UInt16 × ConditionCodes :=
  let raw : Int := left.toNat - right.toNat
  let value := Fold.word raw
  (value,
    { cc.ofResultWord value with
      v := isNegativeWord left != isNegativeWord right &&
        isNegativeWord right == isNegativeWord value
      c := raw < 0 })

/-! ### Operations on a byte -/

/-- Combines an accumulator with an operand. Comparisons and tests give no
value. -/
def Arithmetic.apply (op : Arithmetic) (cc : ConditionCodes) (left right : UInt8) :
    Option UInt8 × ConditionCodes :=
  match op with
  | .add => let r := M68HC11.add cc left right false; (some r.1, r.2)
  | .addCarry => let r := M68HC11.add cc left right cc.c; (some r.1, r.2)
  | .subtract => let r := M68HC11.subtract cc left right false; (some r.1, r.2)
  | .subtractCarry => let r := M68HC11.subtract cc left right cc.c; (some r.1, r.2)
  | .compare => (none, (M68HC11.subtract cc left right false).2)
  | .and => (some (left &&& right), cc.ofData (left &&& right))
  | .bitTest => (none, cc.ofData (left &&& right))
  | .or => (some (left ||| right), cc.ofData (left ||| right))
  | .exclusiveOr => (some (left ^^^ right), cc.ofData (left ^^^ right))
  | .load => (some right, cc.ofData right)

/-- The operation that combines the two accumulators. -/
def Pairing.arithmetic : Pairing → Arithmetic
  | .add => .add
  | .subtract => .subtract
  | .compare => .compare

/-- Changes a byte in place. A test gives no value. -/
def Modification.apply (op : Modification) (cc : ConditionCodes) (value : UInt8) :
    Option UInt8 × ConditionCodes :=
  let carry : UInt8 := if cc.c then 1 else 0
  let lowest := value % 2 == 1
  let highest := isNegative value
  match op with
  | .negate => let r := M68HC11.subtract cc 0 value false; (some r.1, r.2)
  | .complement => (some (~~~value), { cc.ofData (~~~value) with c := true })
  | .logicalShiftRight => (some (value / 2), cc.ofShift (value / 2) lowest)
  | .rotateRight =>
    let result := value / 2 + carry * 0x80
    (some result, cc.ofShift result lowest)
  | .arithmeticShiftRight =>
    let result := value / 2 + (if highest then 0x80 else 0)
    (some result, cc.ofShift result lowest)
  | .shiftLeft => (some (value * 2), cc.ofShift (value * 2) highest)
  | .rotateLeft => (some (value * 2 + carry), cc.ofShift (value * 2 + carry) highest)
  | .decrement =>
    let result := Fold.byte ((value.toNat : Int) - 1)
    (some result, { cc.ofResult result with v := value == 0x80 })
  | .increment =>
    let result := Fold.byte ((value.toNat : Int) + 1)
    (some result, { cc.ofResult result with v := value == 0x7F })
  | .test => (none, { cc.ofData value with c := false })
  | .clear => (some 0, { cc.ofData 0 with c := false })

/-- A byte with the bits of a mask set or cleared. -/
def BitState.put (state : BitState) (value mask : UInt8) : UInt8 :=
  match state with
  | .set => value ||| mask
  | .clear => value &&& ~~~mask

/-- Whether the bits of a mask are all set or all clear in a byte. -/
def BitState.test (are : BitState) (value mask : UInt8) : Bool :=
  match are with
  | .set => value &&& mask == mask
  | .clear => value &&& mask == 0

/-- Corrects the sum of two numbers of two decimal digits each, of which the
addition has set the carry. A sum of 154 or more, or one with a carry, has a
third digit. -/
def decimalAdjust (cc : ConditionCodes) (sum : UInt8) : UInt8 × ConditionCodes :=
  let overflows := cc.c || 0x9A ≤ sum
  let tens :=
    if overflows then
      let corrected := (sum.toNat + 0x66) % 256
      if 9 < corrected % 16 then corrected - 6 else corrected
    else sum.toNat
  let value := Fold.byte (if 9 < tens % 16 then tens + 6 else tens : Nat)
  (value, { cc.ofResult value with v := overflows, c := overflows })

/-! ### Operations on a word -/

/-- Shifts a word by one bit. -/
def ShiftDirection.apply (direction : ShiftDirection) (cc : ConditionCodes) (value : UInt16) :
    UInt16 × ConditionCodes :=
  match direction with
  | .left => (value * 2, cc.ofShiftWord (value * 2) (isNegativeWord value))
  | .right => (value / 2, cc.ofShiftWord (value / 2) (value % 2 == 1))

/-- A word one step further. -/
def StepDirection.apply (direction : StepDirection) (value : UInt16) : UInt16 :=
  match direction with
  | .up => Fold.word ((value.toNat : Int) + 1)
  | .down => Fold.word ((value.toNat : Int) - 1)

/-- The product of two bytes. The carry tells whether its lower half rounds
up. -/
def multiply (cc : ConditionCodes) (left right : UInt8) : UInt16 × ConditionCodes :=
  let product := left.toUInt16 * right.toUInt16
  (product, { cc with c := isNegative (Word.low product) })

/-- A quotient with its remainder and the flags of the division. -/
structure Quotient where
  quotient : UInt16
  remainder : UInt16
  codes : ConditionCodes
  deriving DecidableEq, Repr

/-- Division by zero: the quotient is zero and the dividend remains. -/
def divideByZero (cc : ConditionCodes) (dividend : UInt16) : Quotient :=
  ⟨0, dividend, { cc with z := true, c := dividend != 0 }⟩

/-- Divides a word by a word. A fractional quotient counts in parts of 65536;
it overflows where it does not fit a word. -/
def Division.apply (kind : Division) (cc : ConditionCodes) (dividend divisor : UInt16) :
    Quotient :=
  match kind with
  | .integer =>
    let cc := { cc with v := false }
    if divisor = 0 then divideByZero cc dividend
    else
      let quotient := dividend / divisor
      let remainder := dividend % divisor
      ⟨quotient, remainder, { cc with z := quotient == 0, c := remainder != 0 }⟩
  | .fractional =>
    if divisor = 0 then divideByZero cc dividend
    else
      let scaled := dividend.toNat * 65536 / divisor.toNat
      let rest := dividend.toNat * 65536 % divisor.toNat
      let quotient := UInt16.ofNat scaled
      ⟨quotient, UInt16.ofNat rest,
        { cc with z := quotient == 0, v := 0xFFFF < scaled, c := rest != 0 }⟩

/-- Sets or clears a single flag. -/
def SingleFlag.put (flag : SingleFlag) (cc : ConditionCodes) (state : BitState) : ConditionCodes :=
  match flag with
  | .carry => { cc with c := state == .set }
  | .overflow => { cc with v := state == .set }
  | .interruptMask => { cc with i := state == .set }

end M68HC11
