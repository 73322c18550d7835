import M68HC11.Isa.Register

/-!
Addressing modes: how an instruction finds its operand.
-/

namespace M68HC11

/-- An addressing mode. -/
inductive Mode
  /-- The operation itself says what it works on. -/
  | inherent
  /-- The operand is an accumulator. -/
  | accumulator (r : Accumulator)
  /-- The operand follows the opcode. -/
  | immediate
  /-- A byte follows that is an address below 256. -/
  | direct
  /-- A word follows that is an address. -/
  | extended
  /-- A byte follows that is added to an index register. -/
  | indexed (r : IndexRegister)
  /-- A byte follows that is a signed distance from the next instruction. -/
  | relative
  deriving DecidableEq, Repr

namespace Mode

/-- How many bytes the mode adds behind the opcode. Only the width of an
immediate operand depends on the operation. -/
def operandLength (mode : Mode) (wide : Bool) : Nat :=
  match mode with
  | inherent | accumulator _ => 0
  | direct | indexed _ | relative => 1
  | extended => 2
  | immediate => if wide then 2 else 1

/-- Whether the operand is in memory. -/
def isMemory : Mode → Bool
  | direct | extended | indexed _ => true
  | _ => false

/-- No mode adds more than two bytes. -/
theorem operandLength_le (mode : Mode) (wide : Bool) : mode.operandLength wide ≤ 2 := by
  cases mode <;> cases wide <;> simp [operandLength]

end Mode

end M68HC11
