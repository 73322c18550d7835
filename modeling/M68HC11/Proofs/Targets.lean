import M68HC11.Proofs.Transparency
import M68HC11.Proofs.Slices

/-!
Runs to one target after another.

* `Machine.IsRun`: what the run to a target is: a bounded number of steps from
  counters below the target, of which only the last may halt, and
  `Machine.Run.isRun`: runs are that;
* `Machine.Run.to_later`: a run that is halted does not depend on its target;
* `Machine.Run.append`: a run that has reached its target goes on to a later
  one;
* `Machine.runUntil_in_parts` (**a run can be made in parts**): a run to a
  target followed by one to a later target is the run to the later target, and
  needs no limit to come to its end.
-/

namespace M68HC11

/-- The outcome of a run before which so many steps were made. -/
def RunOutcome.after (run : RunOutcome) (steps : Nat) : RunOutcome :=
  { run with steps := steps + run.steps }

namespace Machine

/-- What the run of a machine to a target is: it comes to its end after at most
half as many steps as there are cycles left, rounded up, all of which begin
below the target. No step but the last halts, and the run is halted exactly if
the last does. Otherwise the counter has reached the target, and the last step
has led at most forty cycles past it. -/
structure IsRun (target : UInt64) (m : Machine) (run : RunOutcome) : Prop where
  not_cutOff : run.ending ≠ .cutOff
  machine : run.machine = stepTimes run.steps m
  bounded : run.steps ≤ (target.toNat - m.cycles.toNat + 1) / 2
  below : ∀ i < run.steps, (stepTimes i m).cycles < target
  runs : ∀ i, i + 1 < run.steps → m.haltAt? i = none
  halted_iff : ∀ address, run.ending.haltedAt = some address ↔
    0 < run.steps ∧ m.haltAt? (run.steps - 1) = some address
  reached : run.ending.haltedAt = none → m.cycles < target →
    target.toNat ≤ run.machine.cycles.toNat ∧ run.machine.cycles.toNat ≤ target.toNat + 40

namespace Run

variable {target later : UInt64} {m m' m'' : Machine} {n k : Nat} {ending : RunEnding}

/-- All steps of a run begin below its target. -/
lemma cycles_lt (h : Run target m n ending m') : ∀ i < n, (stepTimes i m).cycles < target := by
  induction h with
  | reached => exact fun i hi => absurd hi (Nat.not_lt_zero i)
  | halted hlt =>
      intro i hi
      obtain rfl : i = 0 := Nat.lt_one_iff.mp hi
      exact hlt
  | step hlt _ _ ih =>
      intro i hi
      cases i with
      | zero => exact hlt
      | succ i => exact ih i (Nat.lt_of_succ_lt_succ hi)

/-- Every step takes two cycles, so that half as many steps as there are cycles
left are enough. -/
lemma le_half (htarget : Roomy target) (h : Run target m n ending m') :
    n ≤ (target.toNat - m.cycles.toNat + 1) / 2 := by
  obtain ⟨-, hinside, -⟩ := h.bounds htarget
  omega

/-- A run is halted exactly if its last step is. -/
lemma haltedAt_eq_some_iff (h : Run target m n ending m') (address : UInt16) :
    ending.haltedAt = some address ↔ 0 < n ∧ m.haltAt? (n - 1) = some address := by
  constructor
  · intro hhalt
    cases ending with
    | halted => exact ⟨h.pos_of_halted, ((h.stretch h.pos_of_halted).last).trans hhalt⟩
    | reached | cutOff => cases hhalt
  · rintro ⟨hpos, hlast⟩
    exact (h.stretch hpos).last.symm.trans hlast

/-- Runs are what they ought to be. -/
lemma isRun (htarget : Roomy target) (h : Run target m n ending m') :
    IsRun target m ⟨m', n, ending⟩ where
  not_cutOff := h.ne_cutOff
  machine := h.machine_eq
  bounded := h.le_half htarget
  below := h.cycles_lt
  runs i hi := (h.stretch (Nat.zero_lt_of_lt hi)).runs i hi
  halted_iff := h.haltedAt_eq_some_iff
  reached hnone hlt := h.overshoot htarget (h.pos_of_lt hlt) hnone

/-! ### Later targets -/

/-- A run that is halted is halted on its way to any later target. -/
lemma to_later (hle : target ≤ later) {address : UInt16} (h : Run target m n (.halted address) m') :
    Run later m n (.halted address) m' := by
  generalize hending : RunEnding.halted address = ending at h
  induction h with
  | reached => cases hending
  | halted hlt hhalt => exact .halted (UInt64.lt_of_lt_of_le hlt hle) hhalt
  | step hlt hrun _ ih => exact .step (UInt64.lt_of_lt_of_le hlt hle) hrun (ih hending)

/-- A run that has reached its target goes on to a later one. -/
lemma append (hle : target ≤ later) (h : Run target m n .reached m')
    (rest : Run later m' k ending m'') : Run later m (n + k) ending m'' := by
  generalize hreached : RunEnding.reached = first at h
  induction h with
  | reached => rwa [Nat.zero_add]
  | halted => cases hreached
  | step hlt hrun _ ih =>
      rw [Nat.add_right_comm]
      exact .step (UInt64.lt_of_lt_of_le hlt hle) hrun (ih rest hreached)

end Run

/-- **A run can be made in parts**: the run to a target is bounded, so that no
limit above that bound has an influence on it, and makes no step if the counter
has reached the target. If it is not halted, a run to a later target from where
it ends leads where the run to the later target leads, with the steps of both
together; if it is halted, it is the run to the later target. -/
theorem runUntil_in_parts {target : UInt64} (htarget : Roomy target) (m : Machine) :
    IsRun target m (m.runUntil target) ∧
      (∀ limit, (target.toNat - m.cycles.toNat + 1) / 2 ≤ limit →
        runWithin target limit 0 m = m.runUntil target) ∧
      (¬m.cycles < target → m.runUntil target = ⟨m, 0, .reached⟩) ∧
      ∀ later, Roomy later → target ≤ later →
        ((m.runUntil target).ending.haltedAt = none →
          ((m.runUntil target).machine.runUntil later).after (m.runUntil target).steps =
            m.runUntil later) ∧
        ∀ address, (m.runUntil target).ending.haltedAt = some address →
          m.runUntil later = m.runUntil target := by
  obtain ⟨n, ending, m', h⟩ := exists_run htarget m
  have hrun := h.runUntil_eq htarget
  rw [hrun]
  refine ⟨h.isRun htarget, fun limit hlimit => ?_, fun hend => ?_, fun later hlater hle => ⟨?_, ?_⟩⟩
  · rw [h.runWithin_eq (Nat.le_trans (h.le_half htarget) hlimit), Nat.zero_add]
  · rw [← hrun, runUntil_of_le hend]
  · intro hnone
    obtain ⟨k, ending', m'', rest⟩ := exists_run hlater m'
    cases ending with
    | reached =>
        rw [(h.append hle rest).runUntil_eq hlater]
        exact congrArg (·.after n) (rest.runUntil_eq hlater)
    | halted => cases hnone
    | cutOff => exact absurd rfl h.ne_cutOff
  · intro address hhalt
    cases ending with
    | halted => exact (h.to_later hle).runUntil_eq hlater
    | reached | cutOff => cases hhalt

/-- Two instructions, with a breakpoint on the byte that the first one reads or
without: the run to the end of the first is halted, or goes on to the end of
the second. -/
theorem runUntil_in_parts_guardedRead :
    Roomy 3 ∧ Roomy 6 ∧ IsRun 3 guardedRead (guardedRead.runUntil 3) ∧
      guardedRead.runUntil 6 = guardedRead.runUntil 3 ∧
        ((bareRead.runUntil 3).machine.runUntil 6).after (bareRead.runUntil 3).steps =
          bareRead.runUntil 6 := by
  have hroomy : Roomy 3 := by decide
  have hroomy' : Roomy 6 := by decide
  have hhalt : guardedRead.step.2.breakpoint? = some 0x20 := by decide +kernel
  have hhalted : (guardedRead.runUntil 3).ending.haltedAt = some 0x20 :=
    congrArg (·.ending.haltedAt) ((Run.halted (by decide +kernel) hhalt).runUntil_eq hroomy)
  have hfree : bareRead.BreakFree := ⟨rfl, fun kind => by cases kind <;> rfl⟩
  have hreached : (bareRead.runUntil 3).ending.haltedAt = none :=
    congrArg (·.ending.haltedAt) ((Run.step (by decide +kernel) hfree.breakpoint?_step
      (.reached (by decide +kernel))).runUntil_eq hroomy)
  obtain ⟨hrun, -, -, hparts⟩ := runUntil_in_parts hroomy guardedRead
  obtain ⟨-, -, -, hparts'⟩ := runUntil_in_parts hroomy bareRead
  exact ⟨hroomy, hroomy', hrun, (hparts 6 hroomy' (by decide)).2 0x20 hhalted,
    (hparts' 6 hroomy' (by decide)).1 hreached⟩

end Machine

end M68HC11
