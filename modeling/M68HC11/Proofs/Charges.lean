import M68HC11.Proofs.Control
import M68HC11.Proofs.Step
import Mathlib.Algebra.Ring.Nat

/-!
What an instruction charges to the cycle counter.

* `Processor.cycles_step`: a step adds to the counter what its outcome says,
  as no operation touches the counter itself, and
  `Processor.retirement_cycles_step` says that this is what the opcode is
  charged;
* `Page.charged_bounds`: that is at least two cycles and at most 41, so that a
  machine makes progress with each step (`Machine.toNat_cycles_step`) and
  passes a target by little.
-/

namespace M68HC11

/-! ### What an opcode is charged -/

namespace Page

/-- Every assigned opcode takes at least two cycles and at most 41. -/
lemma cycles_encodings : ∀ row ∈ encodings, 2 ≤ row.encoding.cycles ∧ row.encoding.cycles ≤ 41 := by
  decide +kernel

/-- Every opcode takes at least two cycles and at most 41. -/
lemma charged_bounds (page : Page) (opcode : UInt8) :
    2 ≤ page.charged opcode ∧ page.charged opcode ≤ 41 := by
  rw [charged, cycles?]
  cases he : page.encoding? opcode with
  | none => exact ⟨by decide, by decide⟩
  | some e => exact cycles_encodings _ (encoding?_eq_some_iff.mp he)

end Page

namespace Processor

/-- A step takes what its opcode is charged. -/
lemma retirement_cycles_step (p : Processor) :
    p.step.retirement.cycles = p.fetch.page.charged p.fetch.opcode := by
  rw [Page.charged, Page.cycles?]
  cases hf : p.fetch.encoding? with
  | none =>
      rw [step_eq_skip hf]
      rw [Fetch.encoding?] at hf
      rw [hf]
      rfl
  | some e =>
      rw [step_eq_execute hf]
      rw [Fetch.encoding?] at hf
      rw [hf]
      rfl

/-- A step adds to the counter what its outcome says. -/
lemma cycles_step (p : Processor) :
    p.step.processor.registers.cycles =
      p.registers.cycles + UInt64.ofNat p.step.retirement.cycles := by
  cases hf : p.fetch.encoding? with
  | none => rw [step_eq_skip hf]; rfl
  | some e =>
      rw [step_eq_execute hf]
      exact congrArg (· + UInt64.ofNat e.cycles) (Instruction.counters_effect _ _ _).2

end Processor

/-! ### What a machine is charged -/

namespace Machine

variable {m : Machine}

/-- A step takes at least two cycles and at most 41. -/
lemma cycles_outcome_bounds (m : Machine) : 2 ≤ m.step.2.cycles ∧ m.step.2.cycles ≤ 41 := by
  have hcycles : m.step.2.cycles = m.core.processor.step.retirement.cycles := cycles_outcome_step m
  rw [hcycles, Processor.retirement_cycles_step]
  exact Page.charged_bounds _ _

/-- A step adds to the counter what its outcome says. -/
lemma cycles_step (m : Machine) :
    m.step.1.cycles = m.cycles + UInt64.ofNat m.step.2.cycles := by
  calc m.step.1.core.processor.registers.cycles
      = m.core.processor.step.processor.registers.cycles := by rw [processor_step]
    _ = m.core.processor.registers.cycles +
          UInt64.ofNat m.core.processor.step.retirement.cycles := Processor.cycles_step _
    _ = m.cycles + UInt64.ofNat m.step.2.cycles := by rw [cycles_outcome_step]; rfl

/-- While the counter is not about to wrap around, a step moves it on by what
its outcome says. -/
lemma toNat_cycles_step (h : m.cycles.toNat + 41 < 2 ^ 64) :
    m.step.1.cycles.toNat = m.cycles.toNat + m.step.2.cycles := by
  obtain ⟨-, hle⟩ := m.cycles_outcome_bounds
  have hcharge : (UInt64.ofNat m.step.2.cycles).toNat = m.step.2.cycles := by
    rw [UInt64.toNat_ofNat']
    omega
  rw [cycles_step, UInt64.toNat_add, hcharge]
  omega

end Machine

end M68HC11
