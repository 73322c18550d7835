import M68HC11.Isa.Condition
import M68HC11.Isa.Register

/-!
The operations of the instruction set, each with its mnemonic and a summary.

Operations that differ only in the register or in the arithmetic they use are
one constructor with that register or arithmetic as its argument. The
properties that decide how many bytes follow an opcode are `isWide` (an
immediate operand has two bytes), `hasMask` (a mask follows the operand) and
`isBitBranch` (a displacement follows the mask).
-/

namespace M68HC11

/-- What an accumulator and an operand are combined by. -/
inductive Arithmetic
  | add
  | addCarry
  | subtract
  | subtractCarry
  | compare
  | and
  | bitTest
  | or
  | exclusiveOr
  | load
  deriving DecidableEq, Repr

/-- What is done to a single byte in place. -/
inductive Modification
  | negate
  | complement
  | logicalShiftRight
  | rotateRight
  | arithmeticShiftRight
  | shiftLeft
  | rotateLeft
  | decrement
  | increment
  | test
  | clear
  deriving DecidableEq, Repr

/-- How the two accumulators are combined with each other. -/
inductive Pairing
  | add
  | subtract
  | compare
  deriving DecidableEq, Repr

/-- Whether bits are set or clear. -/
inductive BitState
  | set
  | clear
  deriving DecidableEq, Repr

/-- A step by one. -/
inductive StepDirection
  | up
  | down
  deriving DecidableEq, Repr

/-- The direction of a shift by one bit. -/
inductive ShiftDirection
  | left
  | right
  deriving DecidableEq, Repr

/-- How the quotient of a division is scaled. -/
inductive Division
  | integer
  | fractional
  deriving DecidableEq, Repr

/-- A flag that an instruction of its own sets or clears. -/
inductive SingleFlag
  | carry
  | overflow
  | interruptMask
  deriving DecidableEq, Repr

/-- An operation of the instruction set. -/
inductive Operation
  /-- Does nothing. -/
  | nop
  /-- Combines an accumulator with the operand. -/
  | accumulate (op : Arithmetic) (r : Accumulator)
  /-- Stores an accumulator. -/
  | store (r : Accumulator)
  /-- Combines the first accumulator with the second. -/
  | pair (op : Pairing)
  /-- Copies an accumulator to the other one. -/
  | copy (source : Accumulator)
  /-- Corrects the sum of two numbers in binary-coded decimal. -/
  | decimalAdjust
  /-- Changes an accumulator or a byte of memory. -/
  | modify (op : Modification)
  /-- Sets or clears the masked bits of a byte of memory. -/
  | putBits (state : BitState)
  /-- Branches if the masked bits of a byte of memory are all set or all
  clear. -/
  | branchOnBits (are : BitState)
  /-- Adds the operand to the double accumulator. -/
  | addWord
  /-- Subtracts the operand from the double accumulator. -/
  | subtractWord
  /-- Compares the double accumulator to the operand. -/
  | compareWord
  /-- Compares an index register to the operand. -/
  | compareIndex (r : IndexRegister)
  /-- Loads a register of sixteen bits. -/
  | loadWord (r : WordRegister)
  /-- Stores a register of sixteen bits. -/
  | storeWord (r : WordRegister)
  /-- Steps an index register by one. -/
  | stepIndex (direction : StepDirection) (r : IndexRegister)
  /-- Steps the stack pointer by one. -/
  | stepStack (direction : StepDirection)
  /-- Adds the second accumulator to an index register. -/
  | addToIndex (r : IndexRegister)
  /-- Exchanges the double accumulator with an index register. -/
  | exchange (r : IndexRegister)
  /-- Shifts the double accumulator by one bit. -/
  | shiftWord (direction : ShiftDirection)
  /-- Multiplies the accumulators. -/
  | multiply
  /-- Divides the double accumulator by the first index register. -/
  | divide (kind : Division)
  /-- Branches if a condition holds. -/
  | branch (condition : Condition)
  /-- Calls a subroutine at a relative address. -/
  | branchToSubroutine
  /-- Continues at the operand's address. -/
  | jump
  /-- Calls the subroutine at the operand's address. -/
  | jumpToSubroutine
  /-- Continues behind the call of the subroutine. -/
  | returnFromSubroutine
  /-- Continues where an interrupt stopped the program. -/
  | returnFromInterrupt
  /-- Pushes an accumulator. -/
  | push (r : Accumulator)
  /-- Pulls an accumulator. -/
  | pull (r : Accumulator)
  /-- Pushes an index register. -/
  | pushIndex (r : IndexRegister)
  /-- Pulls an index register. -/
  | pullIndex (r : IndexRegister)
  /-- Points an index register at the top of the stack. -/
  | stackToIndex (r : IndexRegister)
  /-- Makes the top of the stack the cell an index register points at. -/
  | indexToStack (r : IndexRegister)
  /-- Loads the condition codes from the first accumulator. -/
  | accumulatorToCodes
  /-- Loads the first accumulator from the condition codes. -/
  | codesToAccumulator
  /-- Sets or clears one flag. -/
  | putFlag (flag : SingleFlag) (state : BitState)
  deriving DecidableEq, Repr

/-! ### Mnemonics -/

/-- The mnemonic of an accumulator operation without the accumulator. -/
def Arithmetic.stem : Arithmetic → String
  | .add => "add"
  | .addCarry => "adc"
  | .subtract => "sub"
  | .subtractCarry => "sbc"
  | .compare => "cmp"
  | .and => "and"
  | .bitTest => "bit"
  | .or => "ora"
  | .exclusiveOr => "eor"
  | .load => "lda"

/-- The mnemonic of a change to a single byte. -/
def Modification.mnemonic : Modification → String
  | .negate => "neg"
  | .complement => "com"
  | .logicalShiftRight => "lsr"
  | .rotateRight => "ror"
  | .arithmeticShiftRight => "asr"
  | .shiftLeft => "asl"
  | .rotateLeft => "rol"
  | .decrement => "dec"
  | .increment => "inc"
  | .test => "tst"
  | .clear => "clr"

/-- The letter that names a single flag in a mnemonic. -/
def SingleFlag.suffix : SingleFlag → String
  | .carry => "c"
  | .overflow => "v"
  | .interruptMask => "i"

/-- The end of the mnemonics that set or clear masked bits. -/
def BitState.suffix : BitState → String
  | .set => "set"
  | .clear => "clr"

namespace Operation

/-- The mnemonic. A change to a single byte has the accumulator's letter
added where its operand is an accumulator. -/
def mnemonic : Operation → String
  | nop => "nop"
  | accumulate op r => op.stem ++ r.suffix
  | store r => "sta" ++ r.suffix
  | pair .add => "aba"
  | pair .subtract => "sba"
  | pair .compare => "cba"
  | copy source => "t" ++ source.suffix ++ source.other.suffix
  | decimalAdjust => "daa"
  | modify op => op.mnemonic
  | putBits state => "b" ++ state.suffix
  | branchOnBits are => "br" ++ are.suffix
  | addWord => "addd"
  | subtractWord => "subd"
  | compareWord => "cpd"
  | compareIndex r => "cp" ++ r.suffix
  | loadWord r => "ld" ++ r.suffix
  | storeWord r => "st" ++ r.suffix
  | stepIndex .up r => "in" ++ r.suffix
  | stepIndex .down r => "de" ++ r.suffix
  | stepStack .up => "ins"
  | stepStack .down => "des"
  | addToIndex r => "ab" ++ r.suffix
  | exchange r => "xgd" ++ r.suffix
  | shiftWord .left => "asld"
  | shiftWord .right => "lsrd"
  | multiply => "mul"
  | divide .integer => "idiv"
  | divide .fractional => "fdiv"
  | branch condition => condition.mnemonic
  | branchToSubroutine => "bsr"
  | jump => "jmp"
  | jumpToSubroutine => "jsr"
  | returnFromSubroutine => "rts"
  | returnFromInterrupt => "rti"
  | push r => "psh" ++ r.suffix
  | pull r => "pul" ++ r.suffix
  | pushIndex r => "psh" ++ r.suffix
  | pullIndex r => "pul" ++ r.suffix
  | stackToIndex r => "ts" ++ r.suffix
  | indexToStack r => "t" ++ r.suffix ++ "s"
  | accumulatorToCodes => "tap"
  | codesToAccumulator => "tpa"
  | putFlag flag .set => "se" ++ flag.suffix
  | putFlag flag .clear => "cl" ++ flag.suffix

end Operation

/-! ### Summaries -/

/-- What an accumulator operation does, in a few words. -/
def Arithmetic.summary (op : Arithmetic) (r : Accumulator) : String :=
  match op with
  | .add => s!"Add the operand to {r.name}."
  | .addCarry => s!"Add the operand and carry to {r.name}."
  | .subtract => s!"Subtract the operand from {r.name}."
  | .subtractCarry => s!"Subtract the operand and carry from {r.name}."
  | .compare => s!"Compare {r.name} to the operand."
  | .and => s!"AND {r.name} with the operand."
  | .bitTest => s!"Bit test {r.name} against the operand."
  | .or => s!"Inclusive-OR {r.name} with the operand."
  | .exclusiveOr => s!"Exclusive-OR {r.name} with the operand."
  | .load => s!"Load {r.name}."

/-- What a change to a single byte does, in a few words. -/
def Modification.summary : Modification → String
  | .negate => "Two's complement negate."
  | .complement => "One's complement."
  | .logicalShiftRight => "Logical shift right."
  | .rotateRight => "Rotate right through carry."
  | .arithmeticShiftRight => "Arithmetic shift right."
  | .shiftLeft => "Arithmetic shift left."
  | .rotateLeft => "Rotate left through carry."
  | .decrement => "Decrement."
  | .increment => "Increment."
  | .test => "Test for zero or minus."
  | .clear => "Clear to zero."

/-- What setting or clearing a single flag does, in a few words. -/
def SingleFlag.summary : SingleFlag → BitState → String
  | .carry, .set => "Set the carry flag."
  | .carry, .clear => "Clear the carry flag."
  | .overflow, .set => "Set the overflow flag."
  | .overflow, .clear => "Clear the overflow flag."
  | .interruptMask, .set => "Set the interrupt mask, disabling interrupts."
  | .interruptMask, .clear => "Clear the interrupt mask, enabling interrupts."

namespace Operation

/-- What the operation does, in a few words. -/
def summary : Operation → String
  | nop => "Perform no operation."
  | accumulate op r => op.summary r
  | store r => s!"Store {r.name}."
  | pair .add => "Add B to A; result in A."
  | pair .subtract => "Subtract B from A; result in A."
  | pair .compare => "Compare A to B."
  | copy source => s!"Transfer {source.name} to {source.other.name}."
  | decimalAdjust => "Decimal adjust accumulator A."
  | modify op => op.summary
  | putBits .set => "Set the mask bits in the operand."
  | putBits .clear => "Clear the mask bits in the operand."
  | branchOnBits .set => "Branch if all mask bits are set in the operand."
  | branchOnBits .clear => "Branch if all mask bits are clear in the operand."
  | addWord => "Add the 16-bit operand to D."
  | subtractWord => "Subtract the 16-bit operand from D."
  | compareWord => "Compare D to the 16-bit operand."
  | compareIndex r => s!"Compare {r.name} to the 16-bit operand."
  | loadWord r => s!"Load {r.name}."
  | storeWord r => s!"Store {r.name}."
  | stepIndex .up r => s!"Increment {r.name}."
  | stepIndex .down r => s!"Decrement {r.name}."
  | stepStack .up => "Increment SP."
  | stepStack .down => "Decrement SP."
  | addToIndex r => s!"Add B to {r.name}."
  | exchange r => s!"Exchange D and {r.name}."
  | shiftWord .left => "Arithmetically shift D left once."
  | shiftWord .right => "Logically shift D right once."
  | multiply => "Multiply A by B; result in D."
  | divide .integer => "Integer divide D by X; quotient to X, remainder to D."
  | divide .fractional => "Fractional divide D by X; quotient to X, remainder to D."
  | branch condition => condition.summary
  | branchToSubroutine => "Branch to subroutine."
  | jump => "Jump."
  | jumpToSubroutine => "Jump to subroutine."
  | returnFromSubroutine => "Return from subroutine."
  | returnFromInterrupt => "Return from interrupt."
  | push r => s!"Push {r.name} onto the stack."
  | pull r => s!"Pull {r.name} from the stack."
  | pushIndex r => s!"Push {r.name} onto the stack."
  | pullIndex r => s!"Pull {r.name} from the stack."
  | stackToIndex r => s!"Transfer SP + 1 to {r.name}."
  | indexToStack r => s!"Transfer {r.name} - 1 to SP."
  | accumulatorToCodes => "Transfer accumulator A into the CCR."
  | codesToAccumulator => "Transfer the CCR into accumulator A."
  | putFlag flag state => flag.summary state

/-! ### What follows an opcode -/

/-- Whether an immediate operand has two bytes. -/
def isWide : Operation → Bool
  | addWord | subtractWord | compareWord | compareIndex _ | loadWord _ => true
  | _ => false

/-- Whether a mask follows the operand. -/
def hasMask : Operation → Bool
  | putBits _ | branchOnBits _ => true
  | _ => false

/-- Whether a displacement follows the mask. -/
def isBitBranch : Operation → Bool
  | branchOnBits _ => true
  | _ => false

/-- Whether the operation is a relative branch that takes its branch under
the given condition codes; nothing if it is no relative branch. A call of a
subroutine is always taken. -/
def branches? (cc : ConditionCodes) : Operation → Option Bool
  | branch condition => some (condition.holds cc)
  | branchToSubroutine => some true
  | _ => none

/-- Only operations with a mask have a displacement behind it. -/
theorem hasMask_of_isBitBranch {operation : Operation} (h : operation.isBitBranch) :
    operation.hasMask := by
  cases operation <;> simp_all [isBitBranch, hasMask]

end Operation

end M68HC11
