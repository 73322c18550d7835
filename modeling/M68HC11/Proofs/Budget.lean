import M68HC11.Proofs.Slices
import M68HC11.Proofs.Transparency

/-!
How many cycles a slice takes, wherever the counter stands.

The counter wraps around and the target of a slice does not: where the slice
would go past the largest value of the counter, it ends at that value.

* `Machine.charged`: the cycles that steps take together, and
  `Machine.toNat_cycles_stepTimes`: what they do to the counter;
* `Machine.Run.charged_lt_iff`: a run to the target of a slice has less than
  the budget exactly if the counter stops short at its largest value;
* `Machine.cycles_lt_of_even`: a counter that stays even never stops there;
* `Machine.slice_budget` (**when a slice has its budget**): where there is room
  it has, and wherever it comes to an end it has unless the counter has stopped
  short.
-/

namespace M68HC11

namespace Machine

variable {m m' : Machine}

/-! ### The cycles that steps take together -/

/-- The cycles that so many steps take together. -/
def charged : Nat → Machine → Nat
  | 0, _ => 0
  | n + 1, m => m.step.2.cycles + charged n m.step.1

/-- Steps move the counter on by the cycles that they take together, around its
end. -/
lemma toNat_cycles_stepTimes (n : Nat) (m : Machine) :
    (stepTimes n m).cycles.toNat = (m.cycles.toNat + charged n m) % 2 ^ 64 := by
  induction n generalizing m with
  | zero => exact (Nat.mod_eq_of_lt m.cycles.toNat_lt).symm
  | succ n ih =>
      have hstep : m.step.1.cycles.toNat = (m.cycles.toNat + m.step.2.cycles) % 2 ^ 64 := by
        rw [cycles_step, UInt64.toNat_add, UInt64.toNat_ofNat', Nat.add_mod_mod]
      calc (stepTimes n m.step.1).cycles.toNat
          = (m.step.1.cycles.toNat + charged n m.step.1) % 2 ^ 64 := ih m.step.1
        _ = (m.cycles.toNat + m.step.2.cycles + charged n m.step.1) % 2 ^ 64 := by
            rw [hstep, Nat.mod_add_mod]
        _ = (m.cycles.toNat + charged (n + 1) m) % 2 ^ 64 := by rw [charged, Nat.add_assoc]

/-! ### Runs of machines without breakpoints -/

namespace BreakFree

/-- The runs of a machine without breakpoints end at their targets. -/
lemma ending_eq_reached {target : UInt64} {n : Nat} {ending : RunEnding} (hfree : m.BreakFree)
    (h : Run target m n ending m') : ending = .reached := by
  induction h with
  | reached => rfl
  | halted _ hhalt => rw [hfree.breakpoint?_step] at hhalt; cases hhalt
  | step _ _ _ ih => exact ih hfree.step

/-- A machine without breakpoints has a run to a target that its counter comes
to. -/
lemma exists_run_of_not_lt {target : UInt64} (hfree : m.BreakFree) {n : Nat}
    (h : ¬(Machine.stepTimes n m).cycles < target) :
    ∃ k ≤ n, ∃ m', Run target m k .reached m' := by
  induction n generalizing m with
  | zero => exact ⟨0, Nat.le_refl 0, m, .reached h⟩
  | succ n ih =>
      by_cases hlt : m.cycles < target
      · obtain ⟨k, hk, m', rest⟩ := ih hfree.step h
        exact ⟨k + 1, Nat.succ_le_succ hk, m', .step hlt hfree.breakpoint?_step rest⟩
      · exact ⟨0, Nat.zero_le _, m, .reached hlt⟩

end BreakFree

/-! ### Targets at the end of the counter -/

/-- A run to the target of a slice takes less than the budget exactly if the
target was cut down to the largest value of the counter and the counter stops
there before it wraps around. -/
lemma Run.charged_lt_iff {p : Pacer} {n : Nat} (h : Run (p.sliceTarget m) m n .reached m') :
    charged n m < p.config.sliceCycles.toNat ↔
      2 ^ 64 ≤ m.cycles.toNat + p.config.sliceCycles.toNat ∧
        m.cycles.toNat + charged n m = 2 ^ 64 - 1 := by
  have hcounter := toNat_cycles_stepTimes n m
  have hend := h.target_le
  rw [UInt64.lt_iff_toNat_lt, toNat_sliceTarget, h.machine_eq, hcounter] at hend
  have hstart := m.cycles.toNat_lt
  have hbudget := p.config.sliceCycles.toNat_lt
  omega

/-- On the way to a target that leaves room for a step the counter does not
wrap around. -/
lemma Run.toNat_cycles {target : UInt64} {n : Nat} {ending : RunEnding} (htarget : Roomy target)
    (h : Run target m n ending m') : m'.cycles.toNat = m.cycles.toNat + charged n m := by
  rw [Roomy] at htarget
  induction h with
  | reached => rfl
  | halted hlt =>
      have hbelow := UInt64.lt_iff_toNat_lt.mp hlt
      exact toNat_cycles_step (by omega)
  | step hlt _ _ ih =>
      have hbelow := UInt64.lt_iff_toNat_lt.mp hlt
      rw [ih, toNat_cycles_step (by omega), charged, Nat.add_assoc]

/-! ### Counters that miss their target -/

/-- A slice whose target the counter has reached ends without a step. -/
lemma runSlice_of_not_lt {p : Pacer} (h : ¬m.cycles < p.sliceTarget m) (elapsed : Duration) :
    (p.runSlice m elapsed).ending = .reached ∧ (p.runSlice m elapsed).steps = 0 :=
  have hrun := runUntil_of_le h
  ⟨congrArg (·.ending) hrun, congrArg (·.steps) hrun⟩

/-- In an empty memory there is an unassigned opcode everywhere. -/
lemma step_of_memory_eq_zero (h : m.memory = .zero) :
    m.step.2.cycles = 2 ∧ m.step.1.memory = .zero := by
  have hmemory : m.core.processor.memory = .zero := h
  have hfetch : m.core.processor.fetch.encoding? = none := by
    rw [Processor.fetch, hmemory, Memory.fetch, Memory.read_zero]
    exact (by decide +kernel : Page.primary.encoding? 0 = none)
  constructor
  · calc m.step.2.cycles
        = m.core.processor.step.retirement.cycles := cycles_outcome_step m
      _ = 2 := by rw [Processor.step_eq_skip hfetch]; rfl
  · calc m.step.1.core.processor.memory
        = m.core.processor.step.processor.memory := by rw [processor_step]
      _ = .zero := by rw [Processor.step_eq_skip hfetch]; exact hmemory

/-- In an empty memory an even counter stays even, and never comes to the
largest value that it could have. -/
lemma cycles_lt_of_even (hmemory : m.memory = .zero) (heven : m.cycles.toNat % 2 = 0) (n : Nat) :
    (stepTimes n m).cycles.toNat < 2 ^ 64 - 1 := by
  induction n generalizing m with
  | zero =>
      have hlt := m.cycles.toNat_lt
      exact (show m.cycles.toNat < 2 ^ 64 - 1 by omega)
  | succ n ih =>
      obtain ⟨hcycles, hnext⟩ := step_of_memory_eq_zero hmemory
      refine ih hnext ?_
      rw [cycles_step, hcycles, UInt64.toNat_add]
      have htwo : (UInt64.ofNat 2).toNat = 2 := rfl
      omega

/-- **When a slice has its budget**: a slice of a machine without breakpoints
comes to its end and takes its budget, and at most forty cycles more, where the
counter has room for it. Elsewhere, if it comes to its end, it takes less than
its budget exactly if the counter would have to wrap around for it and stops
short at its largest value; and if it does not come to its end, the counter has
missed the target with every step. -/
theorem slice_budget (hfree : m.BreakFree) (p : Pacer) (elapsed : Duration) :
    let slice := p.runSlice m elapsed
    let budget := p.config.sliceCycles.toNat
    (m.RoomFor p.config → slice.ending = .reached ∧ budget ≤ charged slice.steps m ∧
      (0 < budget → charged slice.steps m ≤ budget + 40)) ∧
      (slice.ending = .reached →
        (charged slice.steps m < budget ↔
          2 ^ 64 ≤ m.cycles.toNat + budget ∧
            m.cycles.toNat + charged slice.steps m = 2 ^ 64 - 1)) ∧
      (slice.ending ≠ .reached → ∀ n ≤ stepLimit, (stepTimes n m).cycles < p.sliceTarget m) := by
  intro slice budget
  have hruns (hend : slice.ending = .reached) :
      Run (p.sliceTarget m) m slice.steps .reached (m.runUntil (p.sliceTarget m)).machine := by
    have hnot : (m.runUntil (p.sliceTarget m)).ending ≠ .cutOff := by
      rw [show (m.runUntil (p.sliceTarget m)).ending = .reached from hend]
      exact RunEnding.noConfusion
    obtain ⟨n, hsteps, hrun⟩ := run_runWithin hnot
    rw [Nat.zero_add] at hsteps
    subst hsteps
    exact hend ▸ hrun
  refine ⟨fun hroom => ?_, fun hend => (hruns hend).charged_lt_iff, fun hnot n hn => ?_⟩
  · have hroomy := hroom.roomy_sliceTarget p.lag
    have htarget := hroom.toNat_sliceTarget p.lag
    have hrun := run_runUntil hroomy m
    have hend : slice.ending = .reached := hfree.ending_eq_reached hrun
    have hcounter := (hruns hend).toNat_cycles hroomy
    refine ⟨hend, ?_, fun hpos => ?_⟩
    · have hlow := (hruns hend).target_le
      rw [UInt64.lt_iff_toNat_lt, htarget, hcounter] at hlow
      omega
    · have hlt := hroom.lt_sliceTarget (UInt64.lt_iff_toNat_lt.mpr hpos) p.lag
      obtain ⟨-, hhigh⟩ := (hruns hend).overshoot hroomy ((hruns hend).pos_of_lt hlt) rfl
      rw [htarget, hcounter] at hhigh
      omega
  · by_contra hend
    obtain ⟨k, hk, m', hrun⟩ := hfree.exists_run_of_not_lt hend
    refine hnot (congrArg (·.ending) (hrun.runWithin_eq (Nat.le_trans hk hn) 0))

/-- A machine with an empty memory whose counter stands somewhere. -/
def emptyAt (counter : UInt64) : Machine :=
  initial.putRegisters { initial.registers with cycles := counter }

/-- There is no breakpoint in it. -/
lemma breakFree_emptyAt (counter : UInt64) : (emptyAt counter).BreakFree :=
  ⟨rfl, fun kind => by cases kind <;> rfl⟩

/-- Where there is room an empty machine has the budget of a standard slice. At
three below the end of the counter a slice of four cycles comes to its end
after two of them, for there the counter stops short. -/
theorem slice_budget_emptyAt :
    ((emptyAt 0).BreakFree ∧ (emptyAt 0).RoomFor .standard ∧
      ((Pacer.ofConfig .standard).runSlice (emptyAt 0) ⟨0, 0⟩).ending = .reached ∧
        66666 ≤ charged ((Pacer.ofConfig .standard).runSlice (emptyAt 0) ⟨0, 0⟩).steps
          (emptyAt 0)) ∧
      let late := emptyAt 0xFFFFFFFFFFFFFFFD
      let slice := (Pacer.ofConfig ⟨120, 30⟩).runSlice late ⟨0, 0⟩
      late.BreakFree ∧ slice.ending = .reached ∧
        late.cycles.toNat + charged slice.steps late = 2 ^ 64 - 1 ∧
          charged slice.steps late < 4 := by
  constructor
  · have hroom : (emptyAt 0).RoomFor .standard := by decide +kernel
    obtain ⟨hrun, -⟩ := slice_budget (breakFree_emptyAt 0) (Pacer.ofConfig .standard) ⟨0, 0⟩
    obtain ⟨hend, hlow, -⟩ := hrun hroom
    exact ⟨breakFree_emptyAt 0, hroom, hend, hlow⟩
  · intro late slice
    have hend : slice.ending = .reached := by decide +kernel
    have hbudget : (PacingConfig.sliceCycles ⟨120, 30⟩).toNat = 4 := by decide +kernel
    have hlast : late.cycles.toNat + charged slice.steps late = 2 ^ 64 - 1 := by decide +kernel
    have hwraps : 2 ^ 64 ≤ late.cycles.toNat + 4 := by decide +kernel
    obtain ⟨-, hshort, -⟩ :=
      slice_budget (breakFree_emptyAt 0xFFFFFFFFFFFFFFFD) (Pacer.ofConfig ⟨120, 30⟩) ⟨0, 0⟩
    have hiff := hshort hend
    change charged slice.steps late < (PacingConfig.sliceCycles ⟨120, 30⟩).toNat ↔
      2 ^ 64 ≤ late.cycles.toNat + (PacingConfig.sliceCycles ⟨120, 30⟩).toNat ∧
        late.cycles.toNat + charged slice.steps late = 2 ^ 64 - 1 at hiff
    rw [hbudget] at hiff
    exact ⟨breakFree_emptyAt _, hend, hlast, hiff.mpr ⟨hwraps, hlast⟩⟩

/-- At the end of the counter there are slices without their budget: with the
counter at its largest value the slice ends without a step, and with the counter
one below it, in an empty memory, it has no end. -/
theorem budget_missed_at_end :
    let p := Pacer.ofConfig ⟨60, 30⟩
    let last := emptyAt 0xFFFFFFFFFFFFFFFF
    let stuck := emptyAt 0xFFFFFFFFFFFFFFFE
    (last.BreakFree ∧ (p.runSlice last ⟨0, 0⟩).ending = .reached ∧
      charged (p.runSlice last ⟨0, 0⟩).steps last < p.config.sliceCycles.toNat) ∧
      stuck.BreakFree ∧ ¬∃ n ending m', Run (p.sliceTarget stuck) stuck n ending m' := by
  intro p last stuck
  constructor
  · have hreached : ¬last.cycles < p.sliceTarget last := by decide +kernel
    obtain ⟨hend, hsteps⟩ := runSlice_of_not_lt hreached ⟨0, 0⟩
    refine ⟨breakFree_emptyAt _, hend, ?_⟩
    rw [hsteps, charged]
    decide +kernel
  · refine ⟨breakFree_emptyAt _, fun ⟨n, ending, m', hrun⟩ => ?_⟩
    obtain rfl := (breakFree_emptyAt _).ending_eq_reached hrun
    have htarget : (p.sliceTarget stuck).toNat = 2 ^ 64 - 1 := by decide +kernel
    have hend := hrun.target_le
    rw [hrun.machine_eq, UInt64.lt_iff_toNat_lt, htarget] at hend
    exact hend (cycles_lt_of_even rfl (by decide +kernel) n)

end Machine

end M68HC11
