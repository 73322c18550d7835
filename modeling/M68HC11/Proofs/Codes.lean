import M68HC11.Core
import Mathlib.Tactic.Common

/-!
The condition codes that an operation may change.

Operations are written after one another because each leaves alone what it has
nothing to say about: a loop over the bytes of a number loads, stores and steps
its index between two additions, and the carry of the first is still there for
the second.

* `Code` names the eight flags, and `Operation.codes` lists those that an
  operation may change;
* `ConditionCodes.Changes`: two states of the condition codes that differ in
  listed flags only; it is read off `ConditionCodes.merge`, which computes;
* `Instruction.changes_effect`: the effect of an instruction changes no flag
  that is not listed, case by case over the operations;
* `Core.codes_step` (**every operation changes its own codes only**) says so of
  a step.
-/

namespace M68HC11

/-! ### The flags by name -/

/-- A flag of the condition code register. -/
inductive Code
  /-- Stopping is disabled. -/
  | s
  /-- The mask of the nonmaskable interrupt. -/
  | x
  /-- The half carry. -/
  | h
  /-- The interrupt mask. -/
  | i
  /-- The sign. -/
  | n
  /-- Zero. -/
  | z
  /-- The overflow. -/
  | v
  /-- The carry. -/
  | c
  deriving DecidableEq, Repr

namespace ConditionCodes

/-- A flag, by its name. -/
def flag (cc : ConditionCodes) : Code → Bool
  | .s => cc.s
  | .x => cc.x
  | .h => cc.h
  | .i => cc.i
  | .n => cc.n
  | .z => cc.z
  | .v => cc.v
  | .c => cc.c

/-- Whether nothing but the listed flags differs. -/
def Changes (codes : List Code) (old new : ConditionCodes) : Prop :=
  ∀ code ∉ codes, new.flag code = old.flag code

/-- The listed flags as they are in `new`, the others as they are in `old`. -/
def merge (codes : List Code) (old new : ConditionCodes) : ConditionCodes where
  s := if .s ∈ codes then new.s else old.s
  x := if .x ∈ codes then new.x else old.x
  h := if .h ∈ codes then new.h else old.h
  i := if .i ∈ codes then new.i else old.i
  n := if .n ∈ codes then new.n else old.n
  z := if .z ∈ codes then new.z else old.z
  v := if .v ∈ codes then new.v else old.v
  c := if .c ∈ codes then new.c else old.c

/-- Codes that are their own merger differ in the listed flags only. -/
lemma changes_of_eq_merge {codes : List Code} {old new : ConditionCodes}
    (h : new = merge codes old new) : Changes codes old new := by
  intro code hcode
  rw [h]
  cases code <;> exact if_neg hcode

lemma changes_refl (codes : List Code) (cc : ConditionCodes) : Changes codes cc cc :=
  fun _ _ => rfl

end ConditionCodes

/-! ### The flags of an operation -/

/-- The flags that combining an accumulator with an operand may change. -/
def Arithmetic.codes : Arithmetic → List Code
  | .add | .addCarry => [.h, .n, .z, .v, .c]
  | .subtract | .subtractCarry | .compare => [.n, .z, .v, .c]
  | .and | .bitTest | .or | .exclusiveOr | .load => [.n, .z, .v]

/-- The flags that changing a byte in place may change. -/
def Modification.codes : Modification → List Code
  | .decrement | .increment => [.n, .z, .v]
  | _ => [.n, .z, .v, .c]

/-- The flag that an instruction of its own sets or clears. -/
def SingleFlag.code : SingleFlag → Code
  | .carry => .c
  | .overflow => .v
  | .interruptMask => .i

namespace Operation

/-- The flags that an operation may change. -/
def codes : Operation → List Code
  | accumulate op _ => op.codes
  | pair op => op.arithmetic.codes
  | modify op => op.codes
  | addWord | subtractWord | compareWord | compareIndex _ | shiftWord _ | decimalAdjust =>
    [.n, .z, .v, .c]
  | store _ | storeWord _ | loadWord _ | copy _ | putBits _ => [.n, .z, .v]
  | divide _ => [.z, .v, .c]
  | stepIndex .. => [.z]
  | multiply => [.c]
  | putFlag flag _ => [flag.code]
  | accumulatorToCodes | returnFromInterrupt => [.s, .x, .h, .i, .n, .z, .v, .c]
  | _ => []

/-- Whether the operation loads or stores a register or steps a byte or an
index by one: what a loop over the bytes of a number does besides the
arithmetic. -/
def movesOrSteps : Operation → Bool
  | accumulate .load _ | loadWord _ | store _ | storeWord _ | modify .increment
  | modify .decrement | stepIndex .. => true
  | _ => false

/-- Loads, stores and steps do not change the carry. -/
lemma carry_notMem_codes {operation : Operation} (h : operation.movesOrSteps = true) :
    .c ∉ operation.codes := by
  cases operation with
  | accumulate op which =>
      cases op with
      | load => simp [codes, Arithmetic.codes]
      | _ => cases h
  | modify op =>
      cases op with
      | increment | decrement => simp [codes, Modification.codes]
      | _ => cases h
  | loadWord | store | storeWord | stepIndex => simp [codes]
  | _ => cases h

/-- Only the operations that load all condition codes may change whether
stopping is disabled or the mask of the nonmaskable interrupt. -/
lemma eq_of_mem_codes {operation : Operation}
    (h : .s ∈ operation.codes ∨ .x ∈ operation.codes) :
    operation = accumulatorToCodes ∨ operation = returnFromInterrupt := by
  cases operation with
  | accumulatorToCodes => exact .inl rfl
  | returnFromInterrupt => exact .inr rfl
  | accumulate op which => cases op <;> simp [codes, Arithmetic.codes] at h
  | pair op => cases op <;> simp [codes, Pairing.arithmetic, Arithmetic.codes] at h
  | modify op => cases op <;> simp [codes, Modification.codes] at h
  | putFlag flag state => cases flag <;> simp [codes, SingleFlag.code] at h
  | _ => simp [codes] at h

end Operation

/-! ### What arithmetic does to the flags -/

open ConditionCodes

lemma Arithmetic.changes_apply (op : Arithmetic) (cc : ConditionCodes) (left right : UInt8) :
    Changes op.codes cc (op.apply cc left right).2 := by
  cases op <;> exact changes_of_eq_merge rfl

lemma Modification.changes_apply (op : Modification) (cc : ConditionCodes) (value : UInt8) :
    Changes op.codes cc (op.apply cc value).2 := by
  cases op <;> exact changes_of_eq_merge rfl

lemma ShiftDirection.changes_apply (direction : ShiftDirection) (cc : ConditionCodes)
    (value : UInt16) : Changes [.n, .z, .v, .c] cc (direction.apply cc value).2 := by
  cases direction <;> exact changes_of_eq_merge rfl

/-- The flags of a quotient. The flags are variables here, so that nothing is
divided to compare them. -/
lemma ConditionCodes.changes_quotient (cc : ConditionCodes) (z v c : Bool) :
    Changes [.z, .v, .c] cc { cc with z, v, c } :=
  changes_of_eq_merge rfl

lemma Division.changes_apply (kind : Division) (cc : ConditionCodes) (dividend divisor : UInt16) :
    Changes [.z, .v, .c] cc (kind.apply cc dividend divisor).codes := by
  cases kind <;> simp only [Division.apply, divideByZero] <;> split <;>
    exact changes_quotient cc _ _ _

/-- A fractional division by zero leaves the overflow flag alone. -/
lemma Division.v_apply_zero (cc : ConditionCodes) (dividend : UInt16) :
    (Division.fractional.apply cc dividend 0).codes.v = cc.v := by
  simp only [Division.apply, if_true, divideByZero]

lemma SingleFlag.changes_put (flag : SingleFlag) (cc : ConditionCodes) (state : BitState) :
    Changes [flag.code] cc (flag.put cc state) := by
  cases flag <;> exact changes_of_eq_merge rfl

/-! ### What an instruction does to the flags -/

/-- Replacing a register leaves the flags alone. -/
@[simp] lemma Registers.cc_putAccumulator (r : Registers) (which : Accumulator) (value : UInt8) :
    (r.putAccumulator which value).cc = r.cc := by
  cases which <;> rfl

@[simp] lemma Registers.cc_putIndex (r : Registers) (which : IndexRegister) (value : UInt16) :
    (r.putIndex which value).cc = r.cc := by
  cases which <;> rfl

@[simp] lemma Registers.cc_putWord (r : Registers) (which : WordRegister) (value : UInt16) :
    (r.putWord which value).cc = r.cc := by
  cases which <;> rfl

/-- Replacing an operand leaves the flags alone. -/
@[simp] lemma Effect.cc_putByte (e : Effect) (o : Operand) (r : Registers) (value : UInt8) :
    (e.putByte o r value).registers.cc = e.registers.cc := by
  cases o with
  | accumulator which => exact Registers.cc_putAccumulator ..
  | _ => rfl

@[simp] lemma Effect.cc_putWord (e : Effect) (o : Operand) (r : Registers) (value : UInt16) :
    (e.putWord o r value).registers.cc = e.registers.cc := by
  cases o <;> rfl

namespace Instruction

lemma cc_combine (op : Arithmetic) (which : Accumulator) (r : Registers) (v : Reading UInt8) :
    (combine op which r v).registers.cc = (op.apply r.cc (r.accumulator which) v.value).2 := by
  simp only [combine, Effect.ofReading]
  cases (op.apply r.cc (r.accumulator which) v.value).1 with
  | none => rfl
  | some value => exact Registers.cc_putAccumulator ..

lemma exists_cc_change (i : Instruction) (op : Modification) (r : Registers) (m : Memory) :
    ∃ value, (i.change op r m).registers.cc = (op.apply r.cc value).2 := by
  simp only [change]
  split
  · exact ⟨_, Effect.cc_putByte ..⟩
  · exact ⟨_, rfl⟩

/-- The effect of an instruction changes no flag that its operation is not
listed with. -/
lemma changes_effect (i : Instruction) (r : Registers) (m : Memory) :
    Changes i.encoding.operation.codes r.cc (i.effect r m).registers.cc := by
  obtain ⟨⟨operation, mode, cycles⟩, operand, mask, displacement, next⟩ := i
  cases operation with
  | accumulate op which =>
      simp only [effect, cc_combine]
      exact op.changes_apply _ _ _
  | pair op =>
      simp only [effect, cc_combine]
      exact op.arithmetic.changes_apply _ _ _
  | modify op =>
      simp only [effect]
      obtain ⟨value, hvalue⟩ := exists_cc_change ⟨⟨.modify op, mode, cycles⟩, operand, mask,
        displacement, next⟩ op r m
      rw [hvalue]
      exact op.changes_apply _ _
  | shiftWord direction => exact direction.changes_apply _ _
  | divide kind => exact kind.changes_apply _ _ _
  | putFlag flag state => exact flag.changes_put _ _
  | store which | storeWord which | putBits state | copy source | loadWord which
  | stepIndex direction which =>
      simp only [effect, changeBits, Effect.cc_putByte, Effect.cc_putWord, Effect.ofReading,
        Effect.ofRegisters, Registers.cc_putAccumulator, Registers.cc_putIndex,
        Registers.cc_putWord]
      exact changes_of_eq_merge rfl
  | decimalAdjust | addWord | subtractWord | compareWord | compareIndex | multiply
  | accumulatorToCodes | returnFromInterrupt => exact changes_of_eq_merge rfl
  | branch condition =>
      simp only [effect, Effect.ofRegisters]
      split <;> exact changes_refl _ _
  | branchOnBits are =>
      simp only [effect, testBits, Effect.ofReading]
      split <;> exact changes_refl _ _
  | pull which | addToIndex which | exchange which | pullIndex which | stackToIndex which =>
      simp only [effect, Effect.ofReading, Effect.ofRegisters, Registers.cc_putAccumulator,
        Registers.cc_putIndex]
      exact changes_refl _ _
  | _ => exact changes_refl _ _

end Instruction

/-! ### What a step does to the flags -/

namespace Processor

variable {p : Processor} {e : Encoding}

/-- The flags after a step are those that the effect leaves. -/
lemma cc_step (h : p.fetch.encoding? = some e) :
    p.step.processor.registers.cc =
      ((p.memory.complete p.fetch e).effect (advance p.registers p.fetch)
        p.memory).registers.cc := by
  rw [step_eq_execute h]
  rfl

/-- A step changes no flag that the operation is not listed with. -/
lemma changes_step (h : p.fetch.encoding? = some e) :
    Changes e.operation.codes p.registers.cc p.step.processor.registers.cc := by
  rw [cc_step h]
  exact Instruction.changes_effect (p.memory.complete p.fetch e) (advance p.registers p.fetch) _

/-- An opcode that is not assigned changes no flag. -/
lemma cc_step_of_none (h : p.fetch.encoding? = none) :
    p.step.processor.registers.cc = p.registers.cc := by
  rw [step_eq_skip h]
  rfl

/-- A fractional division by zero leaves the overflow flag alone. -/
lemma v_step_of_divide (h : p.fetch.encoding? = some e)
    (hdivide : e.operation = .divide .fractional) (hzero : p.registers.x = 0) :
    p.step.processor.registers.cc.v = p.registers.cc.v := by
  rw [cc_step h]
  simp only [Instruction.effect, Memory.complete, hdivide]
  have hx : (advance p.registers p.fetch).x = 0 := hzero
  rw [hx]
  exact Division.v_apply_zero ..

end Processor

/-- **Every operation changes its own codes only**: the flags that a step may
change are those that the operation is listed with, and for a fractional
division by zero not even all of these. An opcode that is not assigned changes
none. So whether stopping is disabled and the mask of the nonmaskable
interrupt change only by the operations that load all condition codes, and no
load, store or step by one disturbs the carry. -/
theorem Core.codes_step (c : Core) :
    let before := c.registers.cc
    let after := c.step.core.registers.cc
    (c.processor.fetch.encoding? = none → after = before) ∧
      ∀ e, c.processor.fetch.encoding? = some e →
        (∀ code ∉ e.operation.codes, after.flag code = before.flag code) ∧
        (e.operation = .divide .fractional → c.registers.x = 0 → after.v = before.v) ∧
        (after.s ≠ before.s ∨ after.x ≠ before.x →
          e.operation = .accumulatorToCodes ∨ e.operation = .returnFromInterrupt) ∧
        (e.operation.movesOrSteps = true → after.c = before.c) := by
  intro before after
  refine ⟨Processor.cc_step_of_none, fun e he => ?_⟩
  have hchanges : Changes e.operation.codes before after := Processor.changes_step he
  refine ⟨hchanges, Processor.v_step_of_divide he, fun hchanged => ?_, fun hmoves =>
    hchanges .c (Operation.carry_notMem_codes hmoves)⟩
  refine Operation.eq_of_mem_codes (hchanged.imp (fun hs => ?_) fun hx => ?_)
  · by_contra hnotMem
    exact hs (hchanges .s hnotMem)
  · by_contra hnotMem
    exact hx (hchanges .x hnotMem)

/-- Stepping an index register between two additions keeps the carry. -/
theorem Core.codes_step_keepsCarry :
    let codes := { ConditionCodes.reset with c := true }
    let c : Core := ⟨⟨{ Registers.reset with cc := codes }, Memory.zero.write 0 0x08⟩, ∅⟩
    c.processor.fetch.encoding? = some ⟨.stepIndex .up .x, .inherent, 3⟩ ∧
      c.step.core.registers.cc.c = true := by
  intro codes c
  have hfetch : c.processor.fetch.encoding? = some ⟨.stepIndex .up .x, .inherent, 3⟩ := by
    decide +kernel
  have hcarry : c.registers.cc.c = true := rfl
  clear_value c
  obtain ⟨-, -, -, hmoves⟩ := (Core.codes_step c).2 _ hfetch
  exact ⟨hfetch, (hmoves rfl).trans hcarry⟩

end M68HC11
