import M68HC11.Proofs.Charges
import M68HC11.Run

/-!
Runs to a target, as a relation between a machine and the one it leads to.

* `Machine.Run`: a run is made of steps from counters below the target; only
  its last step may halt;
* `Machine.Run.machine_eq`: a run of so many steps leads where so many steps
  lead;
* `Machine.Run.bounds`: as every step takes between two cycles and 41, a run
  whose target leaves room for one more step is bounded and passes its target
  by little;
* `Machine.run_runWithin`: what a limited run makes is a run, unless it is cut
  off;
* `Machine.exists_run`: from every machine there is a run to such a target,
  and `Machine.run_runUntil`: it is the one that `Machine.runUntil` makes,
  which is therefore not cut off.
-/

namespace M68HC11

namespace Machine

/-- The runs of machines to a target: where they begin, how many steps they
have, how they end and where. -/
inductive Run (target : UInt64) : Machine → Nat → RunEnding → Machine → Prop
  /-- The counter has reached the target. -/
  | reached {m : Machine} (hend : ¬m.cycles < target) : Run target m 0 .reached m
  /-- The next step halts. -/
  | halted {m : Machine} {address : UInt16} (hlt : m.cycles < target)
      (hhalt : m.step.2.breakpoint? = some address) : Run target m 1 (.halted address) m.step.1
  /-- The next step does not halt, and the run goes on from there. -/
  | step {m m' : Machine} {n : Nat} {ending : RunEnding} (hlt : m.cycles < target)
      (hrun : m.step.2.breakpoint? = none) (rest : Run target m.step.1 n ending m') :
      Run target m (n + 1) ending m'

/-- Targets that a run can pass by a step without the counter wrapping
around. -/
def Roomy (target : UInt64) : Prop := target.toNat + 41 ≤ 2 ^ 64

instance (target : UInt64) : Decidable (Roomy target) :=
  inferInstanceAs (Decidable (target.toNat + 41 ≤ 2 ^ 64))

namespace Run

variable {target : UInt64} {m m' : Machine} {n : Nat} {ending : RunEnding}

/-- A run that is not cut off by the limit is found. -/
lemma runWithin_eq (h : Run target m n ending m') {limit : Nat} (hle : n ≤ limit) (steps : Nat) :
    runWithin target limit steps m = ⟨m', steps + n, ending⟩ := by
  induction h generalizing limit steps with
  | reached hend =>
      cases limit with
      | zero => rw [runWithin, if_neg hend]; rfl
      | succ limit => rw [runWithin_succ, if_neg hend]; rfl
  | halted hlt hhalt =>
      obtain ⟨limit, rfl⟩ : ∃ k, limit = k + 1 := ⟨limit - 1, by omega⟩
      rw [runWithin_succ, if_pos hlt, hhalt]
  | @step m m' n ending hlt hrun _ ih =>
      obtain ⟨limit, rfl⟩ : ∃ k, limit = k + 1 := ⟨limit - 1, by omega⟩
      rw [runWithin_succ, if_pos hlt, hrun]
      calc runWithin target limit (steps + 1) m.step.1
          = ⟨m', steps + 1 + n, ending⟩ := ih (by omega) (steps + 1)
        _ = ⟨m', steps + (n + 1), ending⟩ := by rw [Nat.add_assoc, Nat.add_comm 1 n]

/-- A run leads where its steps lead. -/
lemma machine_eq (h : Run target m n ending m') : m' = stepTimes n m := by
  induction h with
  | reached => rfl
  | halted => rfl
  | step _ _ _ ih => exact ih

/-- A run is not cut off. -/
lemma ne_cutOff (h : Run target m n ending m') : ending ≠ .cutOff := by
  induction h with
  | reached | halted => exact RunEnding.noConfusion
  | step _ _ _ ih => exact ih

/-- A run to an end that is not reached has a step. -/
lemma pos_of_halted {address : UInt16} (h : Run target m n (.halted address) m') : 0 < n := by
  cases h with
  | halted => exact Nat.one_pos
  | step => exact Nat.succ_pos _

/-- A run from below its target has a step. -/
lemma pos_of_lt (h : Run target m n ending m') (hlt : m.cycles < target) : 0 < n := by
  cases h with
  | reached hend => exact absurd hlt hend
  | halted => exact Nat.one_pos
  | step => exact Nat.succ_pos _

/-- A run that reaches its target ends there. -/
lemma target_le (h : Run target m n .reached m') : ¬m'.cycles < target := by
  generalize hending : RunEnding.reached = ending at h
  induction h with
  | reached hend => exact hend
  | halted => cases hending
  | step _ _ _ ih => exact ih hending

/-- The counter along a run: every step adds at least two cycles, all but the
last leave it below the target, and the last adds at most 41. -/
lemma bounds (htarget : Roomy target) (h : Run target m n ending m') :
    m.cycles.toNat + 2 * n ≤ m'.cycles.toNat ∧
      (n ≠ 0 → m.cycles.toNat + 2 * n < target.toNat + 2) ∧
        (n ≠ 0 → m'.cycles.toNat < target.toNat + 41) := by
  rw [Roomy] at htarget
  induction h with
  | reached => exact ⟨Nat.le_refl _, fun hn => absurd rfl hn, fun hn => absurd rfl hn⟩
  | @halted m _ hlt _ =>
      have hbelow : m.cycles.toNat < target.toNat := UInt64.lt_iff_toNat_lt.mp hlt
      have hstep := toNat_cycles_step (m := m) (by omega)
      obtain ⟨hlow, hhigh⟩ := m.cycles_outcome_bounds
      omega
  | @step m m' n _ hlt _ rest ih =>
      have hbelow : m.cycles.toNat < target.toNat := UInt64.lt_iff_toNat_lt.mp hlt
      have hstep := toNat_cycles_step (m := m) (by omega)
      obtain ⟨hlow, hhigh⟩ := m.cycles_outcome_bounds
      obtain ⟨hcounter, hinside, hend⟩ := ih
      cases n with
      | zero =>
          cases rest with
          | reached => omega
      | succ n => omega

/-- A run has no more steps than runs are allowed. -/
lemma le_stepLimit (htarget : Roomy target) (h : Run target m n ending m') : n ≤ stepLimit := by
  obtain ⟨-, hinside, -⟩ := h.bounds htarget
  have hlimit : stepLimit = 2 ^ 63 := rfl
  rw [Roomy] at htarget
  omega

/-- There is one run to a target, and it is found. -/
lemma runUntil_eq (htarget : Roomy target) (h : Run target m n ending m') :
    m.runUntil target = ⟨m', n, ending⟩ := by
  rw [runUntil, h.runWithin_eq (h.le_stepLimit htarget), Nat.zero_add]

end Run

/-- What a limited run makes is a run, unless it was cut off. -/
lemma run_runWithin {target : UInt64} {limit steps : Nat} {m : Machine}
    (h : (runWithin target limit steps m).ending ≠ .cutOff) :
    ∃ n, (runWithin target limit steps m).steps = steps + n ∧
      Run target m n (runWithin target limit steps m).ending
        (runWithin target limit steps m).machine := by
  induction limit generalizing steps m with
  | zero =>
      rw [runWithin] at h ⊢
      by_cases hlt : m.cycles < target
      · exact absurd (if_pos hlt) h
      · rw [if_neg hlt]
        exact ⟨0, rfl, .reached hlt⟩
  | succ limit ih =>
      rw [runWithin_succ] at h ⊢
      by_cases hlt : m.cycles < target
      · rw [if_pos hlt] at h ⊢
        cases hstep : m.step.2.breakpoint? with
        | some address => exact ⟨1, rfl, .halted hlt hstep⟩
        | none =>
            rw [hstep] at h
            obtain ⟨n, hsteps, hrun⟩ := ih h
            exact ⟨n + 1, by rw [hsteps]; omega, .step hlt hstep hrun⟩
      · rw [if_neg hlt]
        exact ⟨0, rfl, .reached hlt⟩

/-- From every machine there is a run to the target. -/
lemma exists_run {target : UInt64} (htarget : Roomy target) (m : Machine) :
    ∃ n ending m', Run target m n ending m' := by
  -- The induction is on the cycles that are left, of which a step takes some.
  induction hleft : target.toNat - m.cycles.toNat using Nat.strongRecOn generalizing m with
  | _ left ih =>
    by_cases hlt : m.cycles < target
    · cases hstep : m.step.2.breakpoint? with
      | some address => exact ⟨1, .halted address, m.step.1, .halted hlt hstep⟩
      | none =>
          have hbelow : m.cycles.toNat < target.toNat := UInt64.lt_iff_toNat_lt.mp hlt
          have hroom : target.toNat + 41 ≤ 2 ^ 64 := htarget
          have hcounter := toNat_cycles_step (m := m) (by omega)
          obtain ⟨hlow, -⟩ := m.cycles_outcome_bounds
          obtain ⟨n, ending, m', rest⟩ :=
            ih (target.toNat - m.step.1.cycles.toNat) (by omega) m.step.1 rfl
          exact ⟨n + 1, ending, m', .step hlt hstep rest⟩
    · exact ⟨0, .reached, m, .reached hlt⟩

/-- A run to a target is made as the relation says. -/
lemma run_runUntil {target : UInt64} (htarget : Roomy target) (m : Machine) :
    Run target m (m.runUntil target).steps (m.runUntil target).ending
      (m.runUntil target).machine := by
  obtain ⟨n, ending, m', h⟩ := exists_run htarget m
  rw [h.runUntil_eq htarget]
  exact h

end Machine

end M68HC11
