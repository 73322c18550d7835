import M68HC11.Core
import M68HC11.Proofs.Control

/-!
The mask of the nonmaskable interrupt, which once clear stays clear.

* `RegisterChange` has a constructor for every setter of the registers, and
  `CoreEvent` for everything that can happen to the registers and the memory
  of a core: a step, a setter, other contents of memory, or a reset;
* `Processor.x_step`: a step moves the mask only by loading all condition
  codes, and `Processor.x_step_of_clear`: even so it does not set it;
* `Core.x_meet_of_clear`: every event but a reset keeps a clear mask clear, and
  `Core.x_meetAll_of_clear` says so of sequences of events;
* `Core.mask_latched` (**the mask is a latch**) puts these together.
-/

namespace M68HC11

/-! ### What can happen to a core -/

/-- A setter of the registers with the value it is given. -/
inductive RegisterChange
  | a (value : UInt8)
  | b (value : UInt8)
  | d (value : UInt16)
  | x (value : UInt16)
  | y (value : UInt16)
  | sp (value : UInt16)
  | pc (value : UInt16)
  | lastPc (value : UInt16)
  /-- Charges cycles to the counter. -/
  | charge (cycles : UInt64)
  /-- Replaces the condition codes by those of a byte. -/
  | loadCodes (byte : UInt8)
  /-- Sets the condition codes of a mask. -/
  | setCodes (mask : UInt8)
  /-- Clears the condition codes of a mask. -/
  | clearCodes (mask : UInt8)
  /-- Sets or clears the condition codes of a mask. -/
  | putCodes (mask : UInt8) (on : Bool)
  deriving DecidableEq, Repr

/-- The registers after a setter was called. -/
def Registers.change (r : Registers) : RegisterChange → Registers
  | .a value => r.putAccumulator .a value
  | .b value => r.putAccumulator .b value
  | .d value => r.putD value
  | .x value => r.putIndex .x value
  | .y value => r.putIndex .y value
  | .sp value => { r with sp := value }
  | .pc value => { r with pc := value }
  | .lastPc value => { r with lastPc := value }
  | .charge cycles => r.charge cycles
  | .loadCodes byte => { r with cc := r.cc.load byte }
  | .setCodes mask => { r with cc := r.cc.setBits mask }
  | .clearCodes mask => { r with cc := r.cc.clearBits mask }
  | .putCodes mask on => { r with cc := r.cc.putBits mask on }

/-- Something that happens to the registers or the memory of a core. -/
inductive CoreEvent
  /-- The instruction at the program counter is executed. -/
  | step
  /-- A setter of the registers is called. -/
  | change (c : RegisterChange)
  /-- The memory gets other contents. -/
  | putMemory (m : Memory)
  /-- The registers are reset. -/
  | reset
  deriving DecidableEq

namespace Core

/-- The core after an event. -/
def meet (c : Core) : CoreEvent → Core
  | .step => c.step.core
  | .change change => c.putRegisters (c.registers.change change)
  | .putMemory m => c.putMemory m
  | .reset => c.reset

/-- The core after a sequence of events. -/
def meetAll (c : Core) (events : List CoreEvent) : Core := events.foldl meet c

end Core

/-! ### The mask while an instruction is executed -/

/-- No operation sets the mask: loading the condition codes keeps it clear. -/
lemma Instruction.x_effect_of_clear (i : Instruction) {r : Registers} (m : Memory)
    (h : r.cc.x = false) : (i.effect r m).registers.cc.x = false := by
  by_cases hloads : i.encoding.operation.loadsCodes = false
  · rw [Instruction.x_effect hloads, h]
  · obtain ⟨⟨operation, mode, cycles⟩, operand, mask, displacement, next⟩ := i
    cases operation with
    | accumulatorToCodes =>
        show (r.cc.load r.a).x = false
        rw [ConditionCodes.load_x, h, Bool.false_and]
    | returnFromInterrupt =>
        show (r.cc.load (m.read (r.sp + 1))).x = false
        rw [ConditionCodes.load_x, h, Bool.false_and]
    | _ => exact absurd rfl hloads

namespace Processor

variable {p : Processor}

/-- A step keeps a clear mask clear. -/
lemma x_step_of_clear (h : p.registers.cc.x = false) :
    p.step.processor.registers.cc.x = false := by
  cases hf : p.fetch.encoding? with
  | none =>
      rw [step_eq_skip hf]
      exact h
  | some e =>
      rw [step_eq_execute hf]
      exact Instruction.x_effect_of_clear _ _ h

/-- A step moves the mask only by an operation that loads all condition
codes. -/
lemma x_step (h : ∀ e, p.fetch.encoding? = some e → e.operation.loadsCodes = false) :
    p.step.processor.registers.cc.x = p.registers.cc.x := by
  cases hf : p.fetch.encoding? with
  | none =>
      rw [step_eq_skip hf]
      rfl
  | some e =>
      rw [step_eq_execute hf]
      exact Instruction.x_effect (i := p.memory.complete p.fetch e) (h e hf) _ _

end Processor

/-! ### The mask along events -/

/-- A setter keeps a clear mask clear. -/
lemma Registers.x_change_of_clear {r : Registers} (change : RegisterChange)
    (h : r.cc.x = false) : (r.change change).cc.x = false := by
  cases change with
  | loadCodes byte =>
      show (r.cc.load byte).x = false
      rw [ConditionCodes.load_x, h, Bool.false_and]
  | clearCodes mask =>
      show (r.cc.clearBits mask).x = false
      rw [ConditionCodes.clearBits_x, h, Bool.false_and]
  | putCodes mask on => exact ConditionCodes.putBits_x r.cc mask on h
  | _ => exact h

namespace Core

variable {c : Core}

/-- Every event but a reset keeps a clear mask clear. -/
lemma x_meet_of_clear {event : CoreEvent} (hevent : event ≠ .reset)
    (h : c.registers.cc.x = false) : (c.meet event).registers.cc.x = false := by
  cases event with
  | step => exact Processor.x_step_of_clear h
  | change change => exact Registers.x_change_of_clear change h
  | putMemory m => exact h
  | reset => exact absurd rfl hevent

/-- Without a reset a clear mask stays clear, whatever happens and however
often. -/
lemma x_meetAll_of_clear {events : List CoreEvent} (hevents : CoreEvent.reset ∉ events)
    (h : c.registers.cc.x = false) : (c.meetAll events).registers.cc.x = false := by
  induction events generalizing c with
  | nil => exact h
  | cons event events ih =>
      rw [List.mem_cons, not_or] at hevents
      exact ih hevents.2 (x_meet_of_clear (Ne.symm hevents.1) h)

/-- **The mask is a latch**: once the mask of the nonmaskable interrupt is
clear, no sequence of steps, calls to setters and changes of memory sets it
again; a reset does. While it is set, an instruction that neither transfers an
accumulator to the condition codes nor returns from an interrupt leaves it
set, and so does an opcode that is not assigned. -/
theorem mask_latched (c : Core) :
    (c.registers.cc.x = false → ∀ events, CoreEvent.reset ∉ events →
      (c.meetAll events).registers.cc.x = false) ∧
    (c.meet .reset).registers.cc.x = true ∧
    (c.registers.cc.x = true →
      (∀ e, c.processor.fetch.encoding? = some e →
        e.operation ≠ .accumulatorToCodes ∧ e.operation ≠ .returnFromInterrupt) →
      (c.meet .step).registers.cc.x = true) := by
  refine ⟨fun h events hevents => x_meetAll_of_clear hevents h, rfl, fun hset hother => ?_⟩
  have hloads : ∀ e, c.processor.fetch.encoding? = some e → e.operation.loadsCodes = false := by
    rintro ⟨operation, mode, cycles⟩ he
    obtain ⟨htransfer, hreturn⟩ := hother _ he
    cases operation with
    | accumulatorToCodes => exact absurd rfl htransfer
    | returnFromInterrupt => exact absurd rfl hreturn
    | _ => rfl
  exact (Processor.x_step hloads).trans hset

end Core

end M68HC11
