import M68HC11.Isa.Mode
import M68HC11.Isa.Operation
import M68HC11.Isa.Page

/-!
The instruction set: which opcodes stand for which operation, how each finds
its operand, and how many cycles it takes.

* `instructionSet` is a summary by operation, in the order of the mnemonics;
  `encodings` has a row for every opcode in it.
* `Page.encoding?` looks an opcode up. It is found by its index in a map of
  the page, which is made from the rows once (`encoding?_eq_find?`);
  `encoding?_eq_some_iff` says that the map holds the rows and nothing else.
* `Page.charged` is the number of cycles an opcode takes when it is executed,
  be it assigned or not.
-/

namespace M68HC11

/-- What an opcode stands for. -/
structure Encoding where
  operation : Operation
  mode : Mode
  cycles : Nat
  deriving DecidableEq, Repr

/-- How many bytes follow the opcode: the operand, a mask if there is one and
the displacement of a branch on masked bits. -/
def Encoding.operandLength (e : Encoding) : Nat :=
  e.mode.operandLength e.operation.isWide + (if e.operation.hasMask then 1 else 0) +
    (if e.operation.isBitBranch then 1 else 0)

/-- One form of an operation: an opcode on a page, with the addressing mode
and the cycles it takes. -/
structure Form where
  page : Page
  opcode : UInt8
  mode : Mode
  cycles : Nat
  deriving DecidableEq, Repr

/-- An operation with all its forms. -/
structure OperationForms where
  operation : Operation
  forms : List Form
  deriving DecidableEq, Repr

/-- The instruction set by operation. -/
def instructionSet : List OperationForms :=
  [⟨.pair .add, [⟨.primary, 0x1B, .inherent, 2⟩]⟩,
    ⟨.addToIndex .x, [⟨.primary, 0x3A, .inherent, 3⟩]⟩,
    ⟨.addToIndex .y, [⟨.page2, 0x3A, .inherent, 4⟩]⟩,
    ⟨.accumulate .addCarry .a, [⟨.primary, 0x89, .immediate, 2⟩, ⟨.primary, 0x99, .direct, 3⟩,
      ⟨.primary, 0xB9, .extended, 4⟩, ⟨.primary, 0xA9, .indexed .x, 4⟩,
      ⟨.page2, 0xA9, .indexed .y, 5⟩]⟩,
    ⟨.accumulate .addCarry .b, [⟨.primary, 0xC9, .immediate, 2⟩, ⟨.primary, 0xD9, .direct, 3⟩,
      ⟨.primary, 0xF9, .extended, 4⟩, ⟨.primary, 0xE9, .indexed .x, 4⟩,
      ⟨.page2, 0xE9, .indexed .y, 5⟩]⟩,
    ⟨.accumulate .add .a, [⟨.primary, 0x8B, .immediate, 2⟩, ⟨.primary, 0x9B, .direct, 3⟩,
      ⟨.primary, 0xBB, .extended, 4⟩, ⟨.primary, 0xAB, .indexed .x, 4⟩,
      ⟨.page2, 0xAB, .indexed .y, 5⟩]⟩,
    ⟨.accumulate .add .b, [⟨.primary, 0xCB, .immediate, 2⟩, ⟨.primary, 0xDB, .direct, 3⟩,
      ⟨.primary, 0xFB, .extended, 4⟩, ⟨.primary, 0xEB, .indexed .x, 4⟩,
      ⟨.page2, 0xEB, .indexed .y, 5⟩]⟩,
    ⟨.addWord, [⟨.primary, 0xC3, .immediate, 4⟩, ⟨.primary, 0xD3, .direct, 5⟩,
      ⟨.primary, 0xF3, .extended, 6⟩, ⟨.primary, 0xE3, .indexed .x, 6⟩,
      ⟨.page2, 0xE3, .indexed .y, 7⟩]⟩,
    ⟨.accumulate .and .a, [⟨.primary, 0x84, .immediate, 2⟩, ⟨.primary, 0x94, .direct, 3⟩,
      ⟨.primary, 0xB4, .extended, 4⟩, ⟨.primary, 0xA4, .indexed .x, 4⟩,
      ⟨.page2, 0xA4, .indexed .y, 5⟩]⟩,
    ⟨.accumulate .and .b, [⟨.primary, 0xC4, .immediate, 2⟩, ⟨.primary, 0xD4, .direct, 3⟩,
      ⟨.primary, 0xF4, .extended, 4⟩, ⟨.primary, 0xE4, .indexed .x, 4⟩,
      ⟨.page2, 0xE4, .indexed .y, 5⟩]⟩,
    ⟨.modify .shiftLeft, [⟨.primary, 0x48, .accumulator .a, 2⟩,
      ⟨.primary, 0x58, .accumulator .b, 2⟩, ⟨.primary, 0x78, .extended, 6⟩,
      ⟨.primary, 0x68, .indexed .x, 6⟩, ⟨.page2, 0x68, .indexed .y, 7⟩]⟩,
    ⟨.shiftWord .left, [⟨.primary, 0x05, .inherent, 3⟩]⟩,
    ⟨.modify .arithmeticShiftRight, [⟨.primary, 0x47, .accumulator .a, 2⟩,
      ⟨.primary, 0x57, .accumulator .b, 2⟩, ⟨.primary, 0x77, .extended, 6⟩,
      ⟨.primary, 0x67, .indexed .x, 6⟩, ⟨.page2, 0x67, .indexed .y, 7⟩]⟩,
    ⟨.branch .carryClear, [⟨.primary, 0x24, .relative, 3⟩]⟩,
    ⟨.putBits .clear, [⟨.primary, 0x15, .direct, 6⟩, ⟨.primary, 0x1D, .indexed .x, 7⟩,
      ⟨.page2, 0x1D, .indexed .y, 8⟩]⟩,
    ⟨.branch .carrySet, [⟨.primary, 0x25, .relative, 3⟩]⟩,
    ⟨.branch .equal, [⟨.primary, 0x27, .relative, 3⟩]⟩,
    ⟨.branch .greaterOrEqual, [⟨.primary, 0x2C, .relative, 3⟩]⟩,
    ⟨.branch .greater, [⟨.primary, 0x2E, .relative, 3⟩]⟩,
    ⟨.branch .higher, [⟨.primary, 0x22, .relative, 3⟩]⟩,
    ⟨.accumulate .bitTest .a, [⟨.primary, 0x85, .immediate, 2⟩, ⟨.primary, 0x95, .direct, 3⟩,
      ⟨.primary, 0xB5, .extended, 4⟩, ⟨.primary, 0xA5, .indexed .x, 4⟩,
      ⟨.page2, 0xA5, .indexed .y, 5⟩]⟩,
    ⟨.accumulate .bitTest .b, [⟨.primary, 0xC5, .immediate, 2⟩, ⟨.primary, 0xD5, .direct, 3⟩,
      ⟨.primary, 0xF5, .extended, 4⟩, ⟨.primary, 0xE5, .indexed .x, 4⟩,
      ⟨.page2, 0xE5, .indexed .y, 5⟩]⟩,
    ⟨.branch .lessOrEqual, [⟨.primary, 0x2F, .relative, 3⟩]⟩,
    ⟨.branch .lowerOrSame, [⟨.primary, 0x23, .relative, 3⟩]⟩,
    ⟨.branch .less, [⟨.primary, 0x2D, .relative, 3⟩]⟩,
    ⟨.branch .minus, [⟨.primary, 0x2B, .relative, 3⟩]⟩,
    ⟨.branch .notEqual, [⟨.primary, 0x26, .relative, 3⟩]⟩,
    ⟨.branch .plus, [⟨.primary, 0x2A, .relative, 3⟩]⟩,
    ⟨.branch .always, [⟨.primary, 0x20, .relative, 3⟩]⟩,
    ⟨.branchOnBits .clear, [⟨.primary, 0x13, .direct, 6⟩, ⟨.primary, 0x1F, .indexed .x, 7⟩,
      ⟨.page2, 0x1F, .indexed .y, 8⟩]⟩,
    ⟨.branch .never, [⟨.primary, 0x21, .relative, 3⟩]⟩,
    ⟨.branchOnBits .set, [⟨.primary, 0x12, .direct, 6⟩, ⟨.primary, 0x1E, .indexed .x, 7⟩,
      ⟨.page2, 0x1E, .indexed .y, 8⟩]⟩,
    ⟨.putBits .set, [⟨.primary, 0x14, .direct, 6⟩, ⟨.primary, 0x1C, .indexed .x, 7⟩,
      ⟨.page2, 0x1C, .indexed .y, 8⟩]⟩,
    ⟨.branchToSubroutine, [⟨.primary, 0x8D, .relative, 6⟩]⟩,
    ⟨.branch .overflowClear, [⟨.primary, 0x28, .relative, 3⟩]⟩,
    ⟨.branch .overflowSet, [⟨.primary, 0x29, .relative, 3⟩]⟩,
    ⟨.pair .compare, [⟨.primary, 0x11, .inherent, 2⟩]⟩,
    ⟨.putFlag .carry .clear, [⟨.primary, 0x0C, .inherent, 2⟩]⟩,
    ⟨.putFlag .interruptMask .clear, [⟨.primary, 0x0E, .inherent, 2⟩]⟩,
    ⟨.modify .clear, [⟨.primary, 0x4F, .accumulator .a, 2⟩, ⟨.primary, 0x5F, .accumulator .b, 2⟩,
      ⟨.primary, 0x7F, .extended, 6⟩, ⟨.primary, 0x6F, .indexed .x, 6⟩,
      ⟨.page2, 0x6F, .indexed .y, 7⟩]⟩,
    ⟨.putFlag .overflow .clear, [⟨.primary, 0x0A, .inherent, 2⟩]⟩,
    ⟨.accumulate .compare .a, [⟨.primary, 0x81, .immediate, 2⟩, ⟨.primary, 0x91, .direct, 3⟩,
      ⟨.primary, 0xB1, .extended, 4⟩, ⟨.primary, 0xA1, .indexed .x, 4⟩,
      ⟨.page2, 0xA1, .indexed .y, 5⟩]⟩,
    ⟨.accumulate .compare .b, [⟨.primary, 0xC1, .immediate, 2⟩, ⟨.primary, 0xD1, .direct, 3⟩,
      ⟨.primary, 0xF1, .extended, 4⟩, ⟨.primary, 0xE1, .indexed .x, 4⟩,
      ⟨.page2, 0xE1, .indexed .y, 5⟩]⟩,
    ⟨.modify .complement, [⟨.primary, 0x43, .accumulator .a, 2⟩,
      ⟨.primary, 0x53, .accumulator .b, 2⟩, ⟨.primary, 0x73, .extended, 6⟩,
      ⟨.primary, 0x63, .indexed .x, 6⟩, ⟨.page2, 0x63, .indexed .y, 7⟩]⟩,
    ⟨.compareWord, [⟨.page3, 0x83, .immediate, 5⟩, ⟨.page3, 0x93, .direct, 6⟩,
      ⟨.page3, 0xB3, .extended, 7⟩, ⟨.page3, 0xA3, .indexed .x, 7⟩,
      ⟨.page4, 0xA3, .indexed .y, 7⟩]⟩,
    ⟨.compareIndex .x, [⟨.primary, 0x8C, .immediate, 4⟩, ⟨.primary, 0x9C, .direct, 5⟩,
      ⟨.primary, 0xBC, .extended, 6⟩, ⟨.primary, 0xAC, .indexed .x, 6⟩,
      ⟨.page4, 0xAC, .indexed .y, 7⟩]⟩,
    ⟨.compareIndex .y, [⟨.page2, 0x8C, .immediate, 5⟩, ⟨.page2, 0x9C, .direct, 6⟩,
      ⟨.page2, 0xBC, .extended, 7⟩, ⟨.page3, 0xAC, .indexed .x, 7⟩,
      ⟨.page2, 0xAC, .indexed .y, 7⟩]⟩,
    ⟨.decimalAdjust, [⟨.primary, 0x19, .inherent, 2⟩]⟩,
    ⟨.modify .decrement, [⟨.primary, 0x4A, .accumulator .a, 2⟩,
      ⟨.primary, 0x5A, .accumulator .b, 2⟩, ⟨.primary, 0x7A, .extended, 6⟩,
      ⟨.primary, 0x6A, .indexed .x, 6⟩, ⟨.page2, 0x6A, .indexed .y, 7⟩]⟩,
    ⟨.stepStack .down, [⟨.primary, 0x34, .inherent, 3⟩]⟩,
    ⟨.stepIndex .down .x, [⟨.primary, 0x09, .inherent, 3⟩]⟩,
    ⟨.stepIndex .down .y, [⟨.page2, 0x09, .inherent, 4⟩]⟩,
    ⟨.accumulate .exclusiveOr .a, [⟨.primary, 0x88, .immediate, 2⟩, ⟨.primary, 0x98, .direct, 3⟩,
      ⟨.primary, 0xB8, .extended, 4⟩, ⟨.primary, 0xA8, .indexed .x, 4⟩,
      ⟨.page2, 0xA8, .indexed .y, 5⟩]⟩,
    ⟨.accumulate .exclusiveOr .b, [⟨.primary, 0xC8, .immediate, 2⟩, ⟨.primary, 0xD8, .direct, 3⟩,
      ⟨.primary, 0xF8, .extended, 4⟩, ⟨.primary, 0xE8, .indexed .x, 4⟩,
      ⟨.page2, 0xE8, .indexed .y, 5⟩]⟩,
    ⟨.divide .fractional, [⟨.primary, 0x03, .inherent, 41⟩]⟩,
    ⟨.divide .integer, [⟨.primary, 0x02, .inherent, 41⟩]⟩,
    ⟨.modify .increment, [⟨.primary, 0x4C, .accumulator .a, 2⟩,
      ⟨.primary, 0x5C, .accumulator .b, 2⟩, ⟨.primary, 0x7C, .extended, 6⟩,
      ⟨.primary, 0x6C, .indexed .x, 6⟩, ⟨.page2, 0x6C, .indexed .y, 7⟩]⟩,
    ⟨.stepStack .up, [⟨.primary, 0x31, .inherent, 3⟩]⟩,
    ⟨.stepIndex .up .x, [⟨.primary, 0x08, .inherent, 3⟩]⟩,
    ⟨.stepIndex .up .y, [⟨.page2, 0x08, .inherent, 4⟩]⟩,
    ⟨.jump, [⟨.primary, 0x7E, .extended, 3⟩, ⟨.primary, 0x6E, .indexed .x, 3⟩,
      ⟨.page2, 0x6E, .indexed .y, 4⟩]⟩,
    ⟨.jumpToSubroutine, [⟨.primary, 0x9D, .direct, 5⟩, ⟨.primary, 0xBD, .extended, 6⟩,
      ⟨.primary, 0xAD, .indexed .x, 6⟩, ⟨.page2, 0xAD, .indexed .y, 7⟩]⟩,
    ⟨.accumulate .load .a, [⟨.primary, 0x86, .immediate, 2⟩, ⟨.primary, 0x96, .direct, 3⟩,
      ⟨.primary, 0xB6, .extended, 4⟩, ⟨.primary, 0xA6, .indexed .x, 4⟩,
      ⟨.page2, 0xA6, .indexed .y, 5⟩]⟩,
    ⟨.accumulate .load .b, [⟨.primary, 0xC6, .immediate, 2⟩, ⟨.primary, 0xD6, .direct, 3⟩,
      ⟨.primary, 0xF6, .extended, 4⟩, ⟨.primary, 0xE6, .indexed .x, 4⟩,
      ⟨.page2, 0xE6, .indexed .y, 5⟩]⟩,
    ⟨.loadWord .d, [⟨.primary, 0xCC, .immediate, 3⟩, ⟨.primary, 0xDC, .direct, 4⟩,
      ⟨.primary, 0xFC, .extended, 5⟩, ⟨.primary, 0xEC, .indexed .x, 5⟩,
      ⟨.page2, 0xEC, .indexed .y, 6⟩]⟩,
    ⟨.loadWord .sp, [⟨.primary, 0x8E, .immediate, 3⟩, ⟨.primary, 0x9E, .direct, 4⟩,
      ⟨.primary, 0xBE, .extended, 5⟩, ⟨.primary, 0xAE, .indexed .x, 5⟩,
      ⟨.page2, 0xAE, .indexed .y, 6⟩]⟩,
    ⟨.loadWord .x, [⟨.primary, 0xCE, .immediate, 3⟩, ⟨.primary, 0xDE, .direct, 4⟩,
      ⟨.primary, 0xFE, .extended, 5⟩, ⟨.primary, 0xEE, .indexed .x, 5⟩,
      ⟨.page4, 0xEE, .indexed .y, 6⟩]⟩,
    ⟨.loadWord .y, [⟨.page2, 0xCE, .immediate, 4⟩, ⟨.page2, 0xDE, .direct, 5⟩,
      ⟨.page2, 0xFE, .extended, 6⟩, ⟨.page3, 0xEE, .indexed .x, 6⟩,
      ⟨.page2, 0xEE, .indexed .y, 6⟩]⟩,
    ⟨.modify .logicalShiftRight, [⟨.primary, 0x44, .accumulator .a, 2⟩,
      ⟨.primary, 0x54, .accumulator .b, 2⟩, ⟨.primary, 0x74, .extended, 6⟩,
      ⟨.primary, 0x64, .indexed .x, 6⟩, ⟨.page2, 0x64, .indexed .y, 7⟩]⟩,
    ⟨.shiftWord .right, [⟨.primary, 0x04, .inherent, 3⟩]⟩,
    ⟨.multiply, [⟨.primary, 0x3D, .inherent, 10⟩]⟩,
    ⟨.modify .negate, [⟨.primary, 0x40, .accumulator .a, 2⟩, ⟨.primary, 0x50, .accumulator .b, 2⟩,
      ⟨.primary, 0x70, .extended, 6⟩, ⟨.primary, 0x60, .indexed .x, 6⟩,
      ⟨.page2, 0x60, .indexed .y, 7⟩]⟩,
    ⟨.nop, [⟨.primary, 0x01, .inherent, 2⟩]⟩,
    ⟨.accumulate .or .a, [⟨.primary, 0x8A, .immediate, 2⟩, ⟨.primary, 0x9A, .direct, 3⟩,
      ⟨.primary, 0xBA, .extended, 4⟩, ⟨.primary, 0xAA, .indexed .x, 4⟩,
      ⟨.page2, 0xAA, .indexed .y, 5⟩]⟩,
    ⟨.accumulate .or .b, [⟨.primary, 0xCA, .immediate, 2⟩, ⟨.primary, 0xDA, .direct, 3⟩,
      ⟨.primary, 0xFA, .extended, 4⟩, ⟨.primary, 0xEA, .indexed .x, 4⟩,
      ⟨.page2, 0xEA, .indexed .y, 5⟩]⟩,
    ⟨.push .a, [⟨.primary, 0x36, .inherent, 3⟩]⟩,
    ⟨.push .b, [⟨.primary, 0x37, .inherent, 3⟩]⟩,
    ⟨.pushIndex .x, [⟨.primary, 0x3C, .inherent, 4⟩]⟩,
    ⟨.pushIndex .y, [⟨.page2, 0x3C, .inherent, 5⟩]⟩,
    ⟨.pull .a, [⟨.primary, 0x32, .inherent, 4⟩]⟩,
    ⟨.pull .b, [⟨.primary, 0x33, .inherent, 4⟩]⟩,
    ⟨.pullIndex .x, [⟨.primary, 0x38, .inherent, 5⟩]⟩,
    ⟨.pullIndex .y, [⟨.page2, 0x38, .inherent, 6⟩]⟩,
    ⟨.modify .rotateLeft, [⟨.primary, 0x49, .accumulator .a, 2⟩,
      ⟨.primary, 0x59, .accumulator .b, 2⟩, ⟨.primary, 0x79, .extended, 6⟩,
      ⟨.primary, 0x69, .indexed .x, 6⟩, ⟨.page2, 0x69, .indexed .y, 7⟩]⟩,
    ⟨.modify .rotateRight, [⟨.primary, 0x46, .accumulator .a, 2⟩,
      ⟨.primary, 0x56, .accumulator .b, 2⟩, ⟨.primary, 0x76, .extended, 6⟩,
      ⟨.primary, 0x66, .indexed .x, 6⟩, ⟨.page2, 0x66, .indexed .y, 7⟩]⟩,
    ⟨.returnFromInterrupt, [⟨.primary, 0x3B, .inherent, 12⟩]⟩,
    ⟨.returnFromSubroutine, [⟨.primary, 0x39, .inherent, 5⟩]⟩,
    ⟨.pair .subtract, [⟨.primary, 0x10, .inherent, 2⟩]⟩,
    ⟨.accumulate .subtractCarry .a, [⟨.primary, 0x82, .immediate, 2⟩,
      ⟨.primary, 0x92, .direct, 3⟩, ⟨.primary, 0xB2, .extended, 4⟩,
      ⟨.primary, 0xA2, .indexed .x, 4⟩, ⟨.page2, 0xA2, .indexed .y, 5⟩]⟩,
    ⟨.accumulate .subtractCarry .b, [⟨.primary, 0xC2, .immediate, 2⟩,
      ⟨.primary, 0xD2, .direct, 3⟩, ⟨.primary, 0xF2, .extended, 4⟩,
      ⟨.primary, 0xE2, .indexed .x, 4⟩, ⟨.page2, 0xE2, .indexed .y, 5⟩]⟩,
    ⟨.putFlag .carry .set, [⟨.primary, 0x0D, .inherent, 2⟩]⟩,
    ⟨.putFlag .interruptMask .set, [⟨.primary, 0x0F, .inherent, 2⟩]⟩,
    ⟨.putFlag .overflow .set, [⟨.primary, 0x0B, .inherent, 2⟩]⟩,
    ⟨.store .a, [⟨.primary, 0x97, .direct, 3⟩, ⟨.primary, 0xB7, .extended, 4⟩,
      ⟨.primary, 0xA7, .indexed .x, 4⟩, ⟨.page2, 0xA7, .indexed .y, 5⟩]⟩,
    ⟨.store .b, [⟨.primary, 0xD7, .direct, 3⟩, ⟨.primary, 0xF7, .extended, 4⟩,
      ⟨.primary, 0xE7, .indexed .x, 4⟩, ⟨.page2, 0xE7, .indexed .y, 5⟩]⟩,
    ⟨.storeWord .d, [⟨.primary, 0xDD, .direct, 4⟩, ⟨.primary, 0xFD, .extended, 5⟩,
      ⟨.primary, 0xED, .indexed .x, 5⟩, ⟨.page2, 0xED, .indexed .y, 6⟩]⟩,
    ⟨.storeWord .sp, [⟨.primary, 0x9F, .direct, 4⟩, ⟨.primary, 0xBF, .extended, 5⟩,
      ⟨.primary, 0xAF, .indexed .x, 5⟩, ⟨.page2, 0xAF, .indexed .y, 6⟩]⟩,
    ⟨.storeWord .x, [⟨.primary, 0xDF, .direct, 4⟩, ⟨.primary, 0xFF, .extended, 5⟩,
      ⟨.primary, 0xEF, .indexed .x, 5⟩, ⟨.page4, 0xEF, .indexed .y, 6⟩]⟩,
    ⟨.storeWord .y, [⟨.page2, 0xDF, .direct, 5⟩, ⟨.page2, 0xFF, .extended, 6⟩,
      ⟨.page3, 0xEF, .indexed .x, 6⟩, ⟨.page2, 0xEF, .indexed .y, 6⟩]⟩,
    ⟨.accumulate .subtract .a, [⟨.primary, 0x80, .immediate, 2⟩, ⟨.primary, 0x90, .direct, 3⟩,
      ⟨.primary, 0xB0, .extended, 4⟩, ⟨.primary, 0xA0, .indexed .x, 4⟩,
      ⟨.page2, 0xA0, .indexed .y, 5⟩]⟩,
    ⟨.accumulate .subtract .b, [⟨.primary, 0xC0, .immediate, 2⟩, ⟨.primary, 0xD0, .direct, 3⟩,
      ⟨.primary, 0xF0, .extended, 4⟩, ⟨.primary, 0xE0, .indexed .x, 4⟩,
      ⟨.page2, 0xE0, .indexed .y, 5⟩]⟩,
    ⟨.subtractWord, [⟨.primary, 0x83, .immediate, 4⟩, ⟨.primary, 0x93, .direct, 5⟩,
      ⟨.primary, 0xB3, .extended, 6⟩, ⟨.primary, 0xA3, .indexed .x, 6⟩,
      ⟨.page2, 0xA3, .indexed .y, 7⟩]⟩,
    ⟨.copy .a, [⟨.primary, 0x16, .inherent, 2⟩]⟩,
    ⟨.accumulatorToCodes, [⟨.primary, 0x06, .inherent, 2⟩]⟩,
    ⟨.copy .b, [⟨.primary, 0x17, .inherent, 2⟩]⟩,
    ⟨.codesToAccumulator, [⟨.primary, 0x07, .inherent, 2⟩]⟩,
    ⟨.modify .test, [⟨.primary, 0x4D, .accumulator .a, 2⟩, ⟨.primary, 0x5D, .accumulator .b, 2⟩,
      ⟨.primary, 0x7D, .extended, 6⟩, ⟨.primary, 0x6D, .indexed .x, 6⟩,
      ⟨.page2, 0x6D, .indexed .y, 7⟩]⟩,
    ⟨.stackToIndex .x, [⟨.primary, 0x30, .inherent, 3⟩]⟩,
    ⟨.stackToIndex .y, [⟨.page2, 0x30, .inherent, 4⟩]⟩,
    ⟨.indexToStack .x, [⟨.primary, 0x35, .inherent, 3⟩]⟩,
    ⟨.indexToStack .y, [⟨.page2, 0x35, .inherent, 4⟩]⟩,
    ⟨.exchange .x, [⟨.primary, 0x8F, .inherent, 3⟩]⟩,
    ⟨.exchange .y, [⟨.page2, 0x8F, .inherent, 4⟩]⟩]

/-- The operations of the instruction set. -/
def Operation.all : List Operation := instructionSet.map (·.operation)

/-- An opcode on a page, with what it stands for. -/
structure OpcodeRow where
  page : Page
  opcode : UInt8
  encoding : Encoding
  deriving DecidableEq, Repr

/-- A number that tells the opcodes of all pages apart. -/
def opcodeKey (page : Page) (opcode : Nat) : Nat := page.number * 256 + opcode

/-- The number of a row's opcode. -/
def OpcodeRow.key (row : OpcodeRow) : Nat := opcodeKey row.page row.opcode.toNat

/-- Opcodes with the same number are the same. -/
theorem opcodeKey_inj {p q : Page} {a b : UInt8}
    (h : opcodeKey p a.toNat = opcodeKey q b.toNat) : p = q ∧ a = b := by
  have := a.toNat_lt
  have := b.toNat_lt
  unfold opcodeKey at h
  have hp : p = q := by cases p <;> cases q <;> simp only [Page.number] at h <;> first | rfl | omega
  subst hp
  exact ⟨rfl, UInt8.toNat_inj.mp (by omega)⟩

/-- The assigned opcodes. -/
def encodings : List OpcodeRow :=
  instructionSet.flatMap fun line => line.forms.map fun form =>
    ⟨form.page, form.opcode, ⟨line.operation, form.mode, form.cycles⟩⟩

namespace Page

/-- The map of a page: what each of the 256 opcodes stands for. -/
def makeMap (page : Page) : Vector (Option Encoding) 256 :=
  Vector.ofFn fun i => (encodings.find? (·.key == opcodeKey page i.val)).map (·.encoding)

/-- The map of the first page. -/
def primaryMap : Vector (Option Encoding) 256 := makeMap primary

/-- The map of the second page. -/
def page2Map : Vector (Option Encoding) 256 := makeMap page2

/-- The map of the third page. -/
def page3Map : Vector (Option Encoding) 256 := makeMap page3

/-- The map of the fourth page. -/
def page4Map : Vector (Option Encoding) 256 := makeMap page4

/-- The map of a page, made once. -/
def map : Page → Vector (Option Encoding) 256
  | primary => primaryMap
  | page2 => page2Map
  | page3 => page3Map
  | page4 => page4Map

/-- What an opcode stands for, if it is assigned. -/
def encoding? (page : Page) (opcode : UInt8) : Option Encoding :=
  page.map.get ⟨opcode.toNat, opcode.toNat_lt⟩

/-- The map of a page is made from the rows. -/
theorem map_eq_makeMap (page : Page) : page.map = page.makeMap := by
  cases page <;> rfl

/-- Looking an opcode up finds its row. -/
theorem encoding?_eq_find? (page : Page) (opcode : UInt8) :
    page.encoding? opcode =
      (encodings.find? (·.key == opcodeKey page opcode.toNat)).map (·.encoding) := by
  simp [encoding?, map_eq_makeMap, makeMap, Vector.get]

/-- Whether numbers differ from each other and from those that `seen` has as
its bits. -/
def distinctFrom (seen : Nat) : List Nat → Bool
  | [] => true
  | n :: ns => !seen.testBit n && distinctFrom (seen ||| 1 <<< n) ns

/-- Numbers that pass the test differ. -/
theorem nodup_of_distinctFrom {seen : Nat} {ns : List Nat} (h : distinctFrom seen ns) :
    ns.Nodup ∧ ∀ n ∈ ns, seen.testBit n = false := by
  induction ns generalizing seen with
  | nil => simp
  | cons n ns ih =>
    simp only [distinctFrom, Bool.and_eq_true, Bool.not_eq_true'] at h
    obtain ⟨hnodup, hseen⟩ := ih h.2
    simp only [Nat.testBit_or, Bool.or_eq_false_iff, Nat.one_shiftLeft,
      Nat.testBit_two_pow] at hseen
    refine ⟨List.nodup_cons.mpr ⟨fun hn => ?_, hnodup⟩, fun k hk => ?_⟩
    · simpa using (hseen n hn).2
    · rcases List.mem_cons.mp hk with rfl | hk
      · exact h.1
      · exact (hseen k hk).1

/-- The rows have different opcodes. -/
theorem nodup_encodings : (encodings.map (·.key)).Nodup :=
  (nodup_of_distinctFrom (show distinctFrom 0 (encodings.map (·.key)) from by decide +kernel)).1

/-- A row of a list with different opcodes is found by its opcode. -/
theorem find?_key_of_mem {rows : List OpcodeRow} (hrows : (rows.map (·.key)).Nodup)
    {row : OpcodeRow} (h : row ∈ rows) : rows.find? (·.key == row.key) = some row := by
  induction rows with
  | nil => exact absurd h (by simp)
  | cons first rest ih =>
    rw [List.map_cons, List.nodup_cons] at hrows
    rcases List.mem_cons.mp h with rfl | hrest
    · simp
    · have hne : first.key ≠ row.key := fun heq =>
        hrows.1 (List.mem_map.mpr ⟨row, hrest, heq.symm⟩)
      rw [List.find?_cons_of_neg (by simpa using hne)]
      exact ih hrows.2 hrest

/-- An opcode stands for what its row says, and an opcode without a row for
nothing. -/
theorem encoding?_eq_some_iff {page : Page} {opcode : UInt8} {e : Encoding} :
    page.encoding? opcode = some e ↔ ⟨page, opcode, e⟩ ∈ encodings := by
  rw [encoding?_eq_find?]
  constructor
  · intro h
    obtain ⟨row, hrow, rfl⟩ := Option.map_eq_some_iff.mp h
    have hkey := List.find?_some hrow
    obtain ⟨rfl, rfl⟩ := opcodeKey_inj (by simpa [OpcodeRow.key] using hkey)
    exact List.mem_of_find?_eq_some hrow
  · intro h
    have hfind := find?_key_of_mem nodup_encodings h
    rw [OpcodeRow.key] at hfind
    rw [hfind, Option.map_some]

/-- Cycles that an opcode takes if it is assigned. -/
def cycles? (page : Page) (opcode : UInt8) : Option Nat := (page.encoding? opcode).map (·.cycles)

/-- Cycles that an unassigned opcode takes. -/
def unassignedCycles : Nat := 2

/-- Cycles that an opcode takes when it is executed. -/
def charged (page : Page) (opcode : UInt8) : Nat := (page.cycles? opcode).getD unassignedCycles

/-- An opcode that stands for an operation of the chip that is not executed
here, but can be named. -/
structure SystemOpcode where
  opcode : UInt8
  mnemonic : String
  description : String
  deriving DecidableEq, Repr

/-- The system opcodes, all of them on the first page. -/
def systemOpcodes : List SystemOpcode :=
  [⟨0x00, "TEST", "Factory test mode; not emulated."⟩,
    ⟨0x3E, "wai", "Wait for interrupt; not emulated."⟩,
    ⟨0x3F, "swi", "Software interrupt; not emulated."⟩,
    ⟨0xCF, "stop", "Stop internal clocks; not emulated."⟩]

/-- The system opcode that an opcode is, if it is one. -/
def systemOpcode? (page : Page) (opcode : UInt8) : Option SystemOpcode :=
  if page = primary then systemOpcodes.find? (·.opcode = opcode) else none

/-- System opcodes are not assigned. -/
theorem encoding?_of_mem_systemOpcodes :
    ∀ system ∈ systemOpcodes, primary.encoding? system.opcode = none := by
  decide +kernel

/-- A byte that selects a page is no opcode of the first page. -/
theorem encoding?_of_prebyte :
    ∀ page : Page, ∀ b, page.prebyte? = some b → primary.encoding? b = none := by
  intro page b h
  cases page <;> simp only [prebyte?, Option.some.injEq, reduceCtorEq] at h <;> subst h <;>
    decide +kernel

end Page

end M68HC11
