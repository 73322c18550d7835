import M68HC11.Execution
import Mathlib.Tactic.Common

/-!
The registers that steer a processor, and the operations that touch them.

* `Registers.control` is the part of the registers that arithmetic and
  transfers leave alone: the program counter, the address of the instruction
  executed last, the cycle counter and the mask of the nonmaskable interrupt;
* `Operation.jumps` and `Operation.loadsCodes` are the operations made to
  touch it, and `Instruction.control_effect` is the frame of all others;
* `Instruction.pc_effect`, `Instruction.x_effect` and
  `Instruction.counters_effect` say for each of these registers which
  operations leave it alone.
-/

namespace M68HC11

/-! ### The registers that steer -/

/-- The registers that arithmetic and transfers leave alone. -/
structure Control where
  pc : UInt16
  lastPc : UInt16
  cycles : UInt64
  /-- The mask of the nonmaskable interrupt. -/
  x : Bool
  deriving DecidableEq, Repr

namespace Registers

variable (r : Registers)

/-- The part of the registers that steers the processor. -/
def control : Control := ⟨r.pc, r.lastPc, r.cycles, r.cc.x⟩

/-- Condition codes with the same mask of the nonmaskable interrupt steer
alike. -/
lemma control_putCodes {cc : ConditionCodes} (h : cc.x = r.cc.x) :
    control { r with cc } = r.control := by
  simp only [control, h]

lemma control_putAccumulator (which : Accumulator) (value : UInt8) :
    (r.putAccumulator which value).control = r.control := by
  cases which <;> rfl

lemma control_putIndex (which : IndexRegister) (value : UInt16) :
    (r.putIndex which value).control = r.control := by
  cases which <;> rfl

lemma control_putWord (which : WordRegister) (value : UInt16) :
    (r.putWord which value).control = r.control := by
  cases which <;> rfl

end Registers

/-- Replacing an operand does not steer. -/
lemma Effect.control_putByte (e : Effect) (o : Operand) (r : Registers) (value : UInt8) :
    (e.putByte o r value).registers.control = e.registers.control := by
  cases o with
  | accumulator which => exact Registers.control_putAccumulator _ _ _
  | _ => rfl

lemma Effect.control_putWord (e : Effect) (o : Operand) (r : Registers) (value : UInt16) :
    (e.putWord o r value).registers.control = e.registers.control := by
  cases o <;> rfl

/-! ### Arithmetic and the mask of the nonmaskable interrupt -/

/-- Combining an accumulator with an operand does not move the mask. -/
lemma Arithmetic.x_apply (op : Arithmetic) (cc : ConditionCodes) (left right : UInt8) :
    (op.apply cc left right).2.x = cc.x := by
  cases op <;> rfl

lemma Modification.x_apply (op : Modification) (cc : ConditionCodes) (value : UInt8) :
    (op.apply cc value).2.x = cc.x := by
  cases op <;> rfl

lemma ShiftDirection.x_apply (direction : ShiftDirection) (cc : ConditionCodes)
    (value : UInt16) : (direction.apply cc value).2.x = cc.x := by
  cases direction <;> rfl

/-- The flags of a quotient keep the mask. The flags are variables here, so
that nothing is divided to see it. -/
lemma ConditionCodes.x_quotient (cc : ConditionCodes) (z v c : Bool) :
    ({ cc with z, v, c } : ConditionCodes).x = cc.x := rfl

lemma Division.x_apply (kind : Division) (cc : ConditionCodes) (dividend divisor : UInt16) :
    (kind.apply cc dividend divisor).codes.x = cc.x := by
  cases kind <;> simp only [Division.apply, divideByZero] <;> split <;>
    exact ConditionCodes.x_quotient cc _ _ _

lemma SingleFlag.x_put (flag : SingleFlag) (cc : ConditionCodes) (state : BitState) :
    (flag.put cc state).x = cc.x := by
  cases flag <;> rfl

/-! ### The operations that steer -/

namespace Operation

/-- Whether the operation can lead the program counter anywhere but to the
next instruction. -/
def jumps : Operation → Bool
  | branch _ | branchOnBits _ | branchToSubroutine | jump | jumpToSubroutine
  | returnFromSubroutine | returnFromInterrupt => true
  | _ => false

/-- Whether the operation loads the condition codes from a byte. -/
def loadsCodes : Operation → Bool
  | accumulatorToCodes | returnFromInterrupt => true
  | _ => false

end Operation

namespace Instruction

/-- Combining an accumulator with a value does not steer. -/
lemma control_combine (op : Arithmetic) (which : Accumulator) (r : Registers)
    (v : Reading UInt8) : (combine op which r v).registers.control = r.control := by
  have hcodes := r.control_putCodes (op.x_apply r.cc (r.accumulator which) v.value)
  simp only [combine, Effect.ofReading]
  cases (op.apply r.cc (r.accumulator which) v.value).1 with
  | none => exact hcodes
  | some value => exact (Registers.control_putAccumulator _ _ _).trans hcodes

/-- Changing the operand in place does not steer. -/
lemma control_change (i : Instruction) (op : Modification) (r : Registers) (m : Memory) :
    (i.change op r m).registers.control = r.control := by
  have hcodes (value : UInt8) := r.control_putCodes (op.x_apply r.cc value)
  simp only [change]
  split
  · exact (Effect.control_putByte _ _ _ _).trans (hcodes _)
  · exact hcodes _

/-- An operation that neither jumps nor loads the condition codes does not
steer. -/
lemma control_effect {i : Instruction} (hjumps : i.encoding.operation.jumps = false)
    (hloads : i.encoding.operation.loadsCodes = false) (r : Registers) (m : Memory) :
    (i.effect r m).registers.control = r.control := by
  obtain ⟨⟨operation, mode, cycles⟩, operand, mask, displacement, next⟩ := i
  cases operation with
  | branch | branchOnBits | branchToSubroutine | jump | jumpToSubroutine
  | returnFromSubroutine | returnFromInterrupt => cases hjumps
  | accumulatorToCodes => cases hloads
  | accumulate op which => exact control_combine op which r _
  | pair op => exact control_combine op.arithmetic .a r _
  | modify op => exact control_change _ op r m
  | store which | putBits state => exact Effect.control_putByte _ _ _ _
  | storeWord which => exact Effect.control_putWord _ _ _ _
  | copy source => exact Registers.control_putAccumulator _ _ _
  | loadWord which => exact Registers.control_putWord _ _ _
  | stepIndex direction which => exact Registers.control_putIndex _ _ _
  | addToIndex which | stackToIndex which => exact Registers.control_putIndex _ _ _
  | exchange which => exact Registers.control_putIndex _ _ _
  | pull which => exact Registers.control_putAccumulator _ _ _
  | pullIndex which => exact Registers.control_putIndex _ _ _
  | shiftWord direction => exact r.control_putCodes (direction.x_apply r.cc r.d)
  | divide kind => exact r.control_putCodes (kind.x_apply r.cc r.d r.x)
  | putFlag flag state => exact r.control_putCodes (flag.x_put r.cc state)
  | _ => rfl

/-- An operation that does not jump leaves the program counter alone. -/
lemma pc_effect {i : Instruction} (h : i.encoding.operation.jumps = false) (r : Registers)
    (m : Memory) : (i.effect r m).registers.pc = r.pc := by
  by_cases hloads : i.encoding.operation.loadsCodes = false
  · exact congrArg Control.pc (control_effect h hloads r m)
  · obtain ⟨⟨operation, mode, cycles⟩, operand, mask, displacement, next⟩ := i
    cases operation with
    | accumulatorToCodes => rfl
    | returnFromInterrupt => cases h
    | _ => exact absurd rfl hloads

/-- An operation that does not load the condition codes steers by the program
counter alone. -/
lemma exists_control_effect {i : Instruction} (h : i.encoding.operation.loadsCodes = false)
    (r : Registers) (m : Memory) :
    ∃ pc, (i.effect r m).registers.control = { r.control with pc } := by
  by_cases hjumps : i.encoding.operation.jumps = false
  · exact ⟨r.pc, control_effect hjumps h r m⟩
  · obtain ⟨⟨operation, mode, cycles⟩, operand, mask, displacement, next⟩ := i
    cases operation with
    | branch condition =>
        simp only [effect, Effect.ofRegisters]
        split <;> exact ⟨_, rfl⟩
    | branchOnBits are =>
        simp only [effect, testBits, Effect.ofReading]
        split <;> exact ⟨_, rfl⟩
    | branchToSubroutine | jump | jumpToSubroutine | returnFromSubroutine => exact ⟨_, rfl⟩
    | returnFromInterrupt => cases h
    | _ => exact absurd rfl hjumps

/-- An operation that does not load the condition codes leaves the mask of the
nonmaskable interrupt alone. -/
lemma x_effect {i : Instruction} (h : i.encoding.operation.loadsCodes = false) (r : Registers)
    (m : Memory) : (i.effect r m).registers.cc.x = r.cc.x := by
  obtain ⟨pc, hcontrol⟩ := exists_control_effect h r m
  exact congrArg Control.x hcontrol

/-- No operation touches the address of the instruction executed last or the
cycle counter, not even one that restores registers from the stack. -/
lemma counters_effect (i : Instruction) (r : Registers) (m : Memory) :
    (i.effect r m).registers.lastPc = r.lastPc ∧ (i.effect r m).registers.cycles = r.cycles := by
  by_cases h : i.encoding.operation.loadsCodes = false
  · obtain ⟨pc, hcontrol⟩ := exists_control_effect h r m
    exact ⟨congrArg Control.lastPc hcontrol, congrArg Control.cycles hcontrol⟩
  · obtain ⟨⟨operation, mode, cycles⟩, operand, mask, displacement, next⟩ := i
    cases operation with
    | accumulatorToCodes | returnFromInterrupt => exact ⟨rfl, rfl⟩
    | _ => exact absurd rfl h

end Instruction

end M68HC11
