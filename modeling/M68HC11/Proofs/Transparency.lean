import M68HC11.Proofs.Calls
import M68HC11.Proofs.Runs

/-!
Watching a machine does not change what it does.

* `Machine.processor_stepTimes_congr`: the processor of a machine goes its way
  whatever watches it;
* `Machine.BreakFree`: a machine without breakpoints never halts
  (`Machine.BreakFree.breakpoint?_step`);
* `Machine.Run.prepend`: the steps of a run, which may have been halted, are
  the first steps of a run that nothing halts;
* `Machine.Resumed`: runs to one target, each from where the one before was
  halted, until one is not halted;
* `Machine.breaks_transparent` (**breakpoints are transparent**): all of them
  together are the run of a machine without breakpoints.
-/

namespace M68HC11

/-- A hit of no breakpoint is not wanted. -/
lemma Breakpoints.not_wants_of_data_eq_empty {b : Breakpoints} {hit : Hit}
    (h : b.data hit.kind = ∅) : ¬b.Wants hit := by
  rintro ⟨-, hmem⟩
  rw [h] at hmem
  exact AddressSet.not_mem_empty _ hmem

namespace Machine

/-! ### The way of the processor -/

/-- The processor goes its way whatever watches it. -/
lemma processor_stepTimes_congr {m m₀ : Machine} (h : m.core.processor = m₀.core.processor)
    (n : Nat) : (stepTimes n m).core.processor = (stepTimes n m₀).core.processor := by
  induction n generalizing m m₀ with
  | zero => exact h
  | succ n ih =>
      refine ih ?_
      rw [processor_step, processor_step, h]

/-- Machines with the same processor have the same counter. -/
lemma cycles_congr {m m₀ : Machine} (h : m.core.processor = m₀.core.processor) :
    m.cycles = m₀.cycles := by
  rw [cycles, registers, Core.registers, h]
  rfl

/-! ### Machines without breakpoints -/

/-- A machine has no breakpoints. -/
structure BreakFree (m : Machine) : Prop where
  exec : m.breakpoints.exec = ∅
  data : ∀ kind, m.breakpoints.data kind = ∅

namespace BreakFree

variable {m : Machine}

/-- A step sets no breakpoint. -/
lemma step (h : m.BreakFree) : m.step.1.BreakFree := by
  obtain ⟨state, hstate⟩ := m.breakpoints_step_eq
  refine ⟨?_, fun kind => ?_⟩
  · rw [hstate]
    exact h.exec
  · rw [hstate]
    cases kind with
    | read => exact h.data .read
    | write => exact h.data .write

/-- A machine without breakpoints hears of no hit. -/
lemma heard_eq (h : m.BreakFree) : m.heard = m.breakpoints.resume := by
  refine Breakpoints.foldl_hearHit_of_forall_not_wants fun hit _ =>
    Breakpoints.not_wants_of_data_eq_empty ?_
  cases hit.kind with
  | read => exact h.data .read
  | write => exact h.data .write

/-- A machine without breakpoints does not halt. -/
lemma breakpoint?_step (h : m.BreakFree) : m.step.2.breakpoint? = none := by
  have hnone : m.heard.haltAfter m.step.1.registers.pc = none := by
    rw [h.heard_eq]
    refine if_neg fun hexec => ?_
    have hmem : m.step.1.registers.pc ∈ m.breakpoints.exec := AddressSet.contains_iff.mp hexec
    rw [h.exec] at hmem
    exact AddressSet.not_mem_empty _ hmem
  rw [outcome_step, hnone]
  cases m.core.step.retirement <;> rfl

/-- However long it runs, it stays without breakpoints. -/
lemma stepTimes (h : m.BreakFree) (n : Nat) : (Machine.stepTimes n m).BreakFree := by
  induction n generalizing m with
  | zero => exact h
  | succ n ih => exact ih h.step

end BreakFree

/-! ### Runs that nothing halts -/

section

variable {target : UInt64} {m m' m₀ m₀' : Machine} {n k : Nat} {ending ending' : RunEnding}

/-- The steps of a run, however it ended, are the first steps of the run of a
machine without breakpoints. -/
lemma Run.prepend (hsame : m.core.processor = m₀.core.processor) (hfree : m₀.BreakFree)
    (h : Run target m n ending m') (rest : Run target (stepTimes n m₀) k ending' m₀') :
    Run target m₀ (n + k) ending' m₀' := by
  induction h generalizing m₀ with
  | reached => rwa [Nat.zero_add]
  | halted hlt =>
      rw [cycles_congr hsame] at hlt
      rw [Nat.add_comm]
      exact .step hlt hfree.breakpoint?_step rest
  | step hlt _ _ ih =>
      have hnext := processor_stepTimes_congr hsame 1
      rw [cycles_congr hsame] at hlt
      rw [Nat.add_right_comm]
      exact .step hlt hfree.breakpoint?_step (ih hnext hfree.step rest)

end

/-! ### Runs that are resumed -/

/-- Runs to one target, each from where the one before was halted: those that
were halted, and the last one, which was not. -/
inductive Resumed (target : UInt64) : Machine → List RunOutcome → RunOutcome → Prop
  /-- The run is not halted. -/
  | last {m : Machine} (hend : (m.runUntil target).ending.haltedAt = none) :
      Resumed target m [] (m.runUntil target)
  /-- The run is halted and resumed. -/
  | again {m : Machine} {address : UInt16} {halted : List RunOutcome} {last : RunOutcome}
      (hhalt : (m.runUntil target).ending.haltedAt = some address)
      (rest : Resumed target (m.runUntil target).machine halted last) :
      Resumed target m (m.runUntil target :: halted) last

/-- How many steps runs have together. -/
def totalSteps (runs : List RunOutcome) : Nat := (runs.map (·.steps)).sum

/-- A run that is resumed whenever it is halted reaches its target, with the
steps of a machine without breakpoints. -/
lemma exists_resumed {target : UInt64} (htarget : Roomy target) {m m₀ : Machine}
    (hsame : m.core.processor = m₀.core.processor) (hfree : m₀.BreakFree) :
    ∃ halted last, Resumed target m halted last ∧ last.ending = .reached ∧
      ∃ m₀', Run target m₀ (totalSteps halted + last.steps) .reached m₀' ∧
        last.machine.core.processor = m₀'.core.processor := by
  -- The induction is on the cycles that are left; a halted run takes some.
  induction hleft : target.toNat - m.cycles.toNat using Nat.strongRecOn generalizing m m₀ with
  | _ left ih =>
    obtain ⟨n, ending, m', h⟩ := exists_run htarget m
    have houtcome := h.runUntil_eq htarget
    have hsame' : m'.core.processor = (stepTimes n m₀).core.processor := by
      rw [h.machine_eq]
      exact processor_stepTimes_congr hsame n
    cases ending with
    | reached =>
        have hend : ¬(stepTimes n m₀).cycles < target := by
          rw [← cycles_congr hsame']
          exact h.target_le
        refine ⟨[], _, .last (by rw [houtcome]; rfl), by rw [houtcome], stepTimes n m₀, ?_, ?_⟩
        · rw [houtcome, Nat.add_comm]
          exact Run.prepend hsame hfree h (.reached hend)
        · rw [houtcome]
          exact hsame'
    | halted address =>
        have hpos := h.pos_of_halted
        obtain ⟨hcounter, hinside, -⟩ := h.bounds htarget
        have hbelow := hinside (by omega)
        obtain ⟨halted, last, hresumed, hreached, m₀', hrun, hlast⟩ :=
          ih (target.toNat - m'.cycles.toNat) (by omega) hsame' (hfree.stepTimes n) rfl
        have hhalt : (m.runUntil target).ending.haltedAt = some address := by
          rw [houtcome]
          rfl
        refine ⟨_ :: halted, last, .again hhalt (by rw [houtcome]; exact hresumed), hreached,
          m₀', ?_, hlast⟩
        have hsteps : totalSteps (m.runUntil target :: halted) + last.steps =
            n + (totalSteps halted + last.steps) := calc
          _ = n + totalSteps halted + last.steps := by
              rw [totalSteps, List.map_cons, List.sum_cons, houtcome]
              rfl
          _ = n + (totalSteps halted + last.steps) := Nat.add_assoc _ _ _
        rw [hsteps]
        exact Run.prepend hsame hfree h hrun
    | cutOff => exact absurd rfl h.ne_cutOff

/-- **Breakpoints are transparent**: a machine with the same processor as one
without breakpoints, which is to say the same registers, counter and memory,
has the same processor after any number of steps. If its run to a target is
resumed whenever it is halted, it reaches the target after finitely many runs,
with the processor and the number of steps of the one run of the other
machine. -/
theorem breaks_transparent {m m₀ : Machine} (hsame : m.core.processor = m₀.core.processor)
    (hfree : m₀.BreakFree) :
    (∀ n, (stepTimes n m).core.processor = (stepTimes n m₀).core.processor) ∧
      ∀ target, Roomy target →
        ∃ halted last, Resumed target m halted last ∧ last.ending = .reached ∧
          (m₀.runUntil target).ending = .reached ∧
            last.machine.core.processor = (m₀.runUntil target).machine.core.processor ∧
              totalSteps halted + last.steps = (m₀.runUntil target).steps := by
  refine ⟨processor_stepTimes_congr hsame, fun target htarget => ?_⟩
  obtain ⟨halted, last, hresumed, hreached, m₀', hrun, hlast⟩ :=
    exists_resumed htarget hsame hfree
  rw [hrun.runUntil_eq htarget]
  exact ⟨halted, last, hresumed, hreached, rfl, hlast, rfl⟩

/-- A machine at an instruction that reads the byte at address 0x40. -/
def bareRead : Machine := initial.performAll readProgram

/-- The same machine with breakpoints on the byte and on the instruction that
follows, an observer of the byte and a listener. -/
def guardedRead : Machine :=
  bareRead.performAll
    [.addObserver "probe", .addTrap 0x40 ⟨1⟩, .addDataBreak .read 0x40, .addExecBreak 0x22,
      .setListener "console"]

/-- Two steps lead the machine that is watched and the other one to the same
processor, and so do runs until the counter is at six, resumed wherever the one
that is watched is halted, with as many steps together. -/
theorem breaks_transparent_guardedRead :
    guardedRead.core.processor = bareRead.core.processor ∧ bareRead.BreakFree ∧ Roomy 6 ∧
      (stepTimes 2 guardedRead).core.processor = (stepTimes 2 bareRead).core.processor ∧
        ∃ halted last, Resumed 6 guardedRead halted last ∧ last.ending = .reached ∧
          (bareRead.runUntil 6).ending = .reached ∧
            last.machine.core.processor = (bareRead.runUntil 6).machine.core.processor ∧
              totalSteps halted + last.steps = (bareRead.runUntil 6).steps := by
  have hsame : guardedRead.core.processor = bareRead.core.processor := rfl
  have hfree : bareRead.BreakFree := ⟨rfl, fun kind => by cases kind <;> rfl⟩
  have hroomy : Roomy 6 := by decide
  obtain ⟨hsteps, hruns⟩ := breaks_transparent hsame hfree
  exact ⟨hsame, hfree, hroomy, hsteps 2, hruns 6 hroomy⟩

end Machine

end M68HC11
