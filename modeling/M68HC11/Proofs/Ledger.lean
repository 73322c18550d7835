import M68HC11.Pacing.Pacer
import Mathlib.Algebra.BigOperators.Group.List.Basic
import Mathlib.Tactic.Linarith

/-!
The account of time that a pacer keeps over many slices.

* `Pacer.calls`: what settling one slice after the other leads to, with
  `Pacer.sleeps` and `Pacer.settleAll` for the sleeps and for the pacer at the
  end;
* `Pacer.excess`: what does not fit the range of durations and lags. It is zero
  as long as the times add up to less than the longest duration
  (`Pacer.totalExcess_eq_zero`);
* `Pacer.sum_sleeps_add_lag`: the equation of the account, from that of one slice
  (`Pacer.sleep_add_lag`);
* `Pacer.ledger_balances` (**the account balances**): in whole milliseconds, no
  time is lost and none is charged twice;
* `Pacer.drift_lt_iff` (**what is lost**): in real time, the parts of a
  millisecond by which slices overrun add up, and nothing remembers them.
-/

namespace M68HC11

namespace Pacer

variable {p : Pacer}

/-! ### One slice -/

/-- The milliseconds that do not fit the range of durations and lags: those of the
time that a slice took, and those of the lag that it leaves. -/
def excess (p : Pacer) (elapsed : Duration) : ℤ :=
  let counted := min (elapsed.milliseconds : ℤ) longest
  (elapsed.milliseconds - counted) + max 0 (-longest - 1 - (p.config.slice - counted + p.lag))

/-- The balance of a slice, with what does not fit the range. -/
lemma balance_eq (hlag : p.lag ≤ 0) (elapsed : Duration) :
    p.balance elapsed = p.config.slice - elapsed.milliseconds + p.lag + p.excess elapsed := by
  obtain ⟨hpos, hle⟩ := p.config.slice_bounds
  simp only [balance, excess, clamp, longest]
  omega

/-- Nothing is cut off while the lag and the time together fit the range. -/
lemma excess_eq_zero {elapsed : Duration} (h : (elapsed.milliseconds : ℤ) - p.lag ≤ longest)
    (hlag : p.lag ≤ 0) : p.excess elapsed = 0 := by
  simp only [excess, longest] at h ⊢
  omega

lemma excess_nonneg (p : Pacer) (elapsed : Duration) : 0 ≤ p.excess elapsed := by
  simp only [excess]
  omega

/-- The balance of a slice is slept or remembered. -/
lemma sleep_add_lag (p : Pacer) (elapsed : Duration) :
    ((p.settle elapsed).1 : ℤ) + (p.settle elapsed).2.lag = p.balance elapsed := by
  rw [settle]
  split_ifs with hpos
  · simp only [add_zero]
    omega
  · simp

/-- The lag is never positive. -/
lemma lag_settle_nonpos (p : Pacer) (elapsed : Duration) : (p.settle elapsed).2.lag ≤ 0 := by
  rw [settle]
  split_ifs with hpos
  · exact le_refl 0
  · exact not_lt.mp hpos

/-- Whoever sleeps has no lag. -/
lemma lag_settle_eq_zero {elapsed : Duration} (h : (p.settle elapsed).1 ≠ 0) :
    (p.settle elapsed).2.lag = 0 := by
  rw [settle] at h ⊢
  split_ifs at h ⊢ with hpos
  · rfl
  · exact absurd rfl h

/-- Nobody sleeps for longer than a slice. -/
lemma sleep_le_slice (hlag : p.lag ≤ 0) (elapsed : Duration) :
    (p.settle elapsed).1 ≤ p.config.slice := by
  obtain ⟨hpos, hle⟩ := p.config.slice_bounds
  have hbalance : p.balance elapsed ≤ p.config.slice := by
    simp only [balance, clamp, longest]
    omega
  rw [settle]
  split_ifs with h
  · simp only
    omega
  · exact Nat.zero_le _

/-! ### Slices one after the other -/

/-- What settling slices one after the other leads to: each sleep, with the pacer
behind it. -/
def calls (p : Pacer) : List Duration → List (ℕ × Pacer)
  | [] => []
  | elapsed :: durations => p.settle elapsed :: calls (p.settle elapsed).2 durations

/-- The sleeps after slices one after the other. -/
def sleeps (p : Pacer) (durations : List Duration) : List ℕ := (p.calls durations).map (·.1)

/-- The pacer once slices have been settled one after the other. -/
def settleAll (p : Pacer) (durations : List Duration) : Pacer :=
  durations.foldl (fun p elapsed => (p.settle elapsed).2) p

/-- What does not fit the range, over slices one after the other. -/
def totalExcess (p : Pacer) : List Duration → ℤ
  | [] => 0
  | elapsed :: durations => p.excess elapsed + totalExcess (p.settle elapsed).2 durations

/-- The whole milliseconds of durations, each counted by itself. -/
def wholeMilliseconds (durations : List Duration) : ℕ :=
  (durations.map Duration.milliseconds).sum

lemma sleeps_cons (p : Pacer) (elapsed : Duration) (durations : List Duration) :
    p.sleeps (elapsed :: durations) =
      (p.settle elapsed).1 :: (p.settle elapsed).2.sleeps durations := rfl

lemma settleAll_cons (p : Pacer) (elapsed : Duration) (durations : List Duration) :
    p.settleAll (elapsed :: durations) = (p.settle elapsed).2.settleAll durations := by
  rw [settleAll, List.foldl_cons, settleAll]

lemma wholeMilliseconds_cons (elapsed : Duration) (durations : List Duration) :
    wholeMilliseconds (elapsed :: durations) =
      elapsed.milliseconds + wholeMilliseconds durations := by
  simp [wholeMilliseconds]

lemma totalExcess_nonneg (p : Pacer) (durations : List Duration) :
    0 ≤ p.totalExcess durations := by
  induction durations generalizing p with
  | nil => exact le_refl 0
  | cons elapsed durations ih => exact add_nonneg (p.excess_nonneg elapsed) (ih _)

/-- Nothing is cut off while the times add up to less than the longest duration. -/
lemma totalExcess_eq_zero {durations : List Duration} (hlag : p.lag ≤ 0)
    (h : (wholeMilliseconds durations : ℤ) - p.lag ≤ longest) : p.totalExcess durations = 0 := by
  induction durations generalizing p with
  | nil => rfl
  | cons elapsed durations ih =>
      rw [wholeMilliseconds_cons, Nat.cast_add] at h
      have hnow : p.excess elapsed = 0 := excess_eq_zero (by omega) hlag
      have hlater : -(p.settle elapsed).2.lag ≤ elapsed.milliseconds - p.lag := by
        have hbalance := balance_eq hlag elapsed
        have hsum := p.sleep_add_lag elapsed
        by_cases hsleep : (p.settle elapsed).1 = 0
        · rw [hsleep] at hsum
          omega
        · rw [lag_settle_eq_zero hsleep]
          omega
      rw [totalExcess, hnow, ih (p.lag_settle_nonpos elapsed) (by omega), add_zero]

/-- **The equation of the account**: what was slept and the lag that remains are
the slices less the times that they took, but for what does not fit the range. -/
lemma sum_sleeps_add_lag (hlag : p.lag ≤ 0) (durations : List Duration) :
    ((p.sleeps durations).sum : ℤ) + (p.settleAll durations).lag =
      durations.length * p.config.slice - wholeMilliseconds durations + p.lag +
        p.totalExcess durations := by
  induction durations generalizing p with
  | nil => simp [sleeps, calls, settleAll, wholeMilliseconds, totalExcess]
  | cons elapsed durations ih =>
      have hnow := p.sleep_add_lag elapsed
      have hlater := ih (p.lag_settle_nonpos elapsed)
      rw [config_settle] at hlater
      rw [balance_eq hlag] at hnow
      rw [sleeps_cons, settleAll_cons, wholeMilliseconds_cons, totalExcess, List.sum_cons,
        List.length_cons]
      simp only [Nat.cast_add, Nat.cast_succ]
      linarith

/-- Each sleep is at most as long as a slice, and it leaves no lag unless it is
none. -/
lemma calls_bounds (hlag : p.lag ≤ 0) {durations : List Duration} :
    ∀ call ∈ p.calls durations,
      call.1 ≤ p.config.slice ∧ call.2.lag ≤ 0 ∧ (call.1 ≠ 0 → call.2.lag = 0) := by
  induction durations generalizing p with
  | nil => exact List.forall_mem_nil _
  | cons elapsed durations ih =>
      refine List.forall_mem_cons.mpr ⟨⟨sleep_le_slice hlag elapsed, p.lag_settle_nonpos elapsed,
        lag_settle_eq_zero⟩, ?_⟩
      have hrest := ih (p.lag_settle_nonpos elapsed)
      rwa [config_settle] at hrest

/-- **The account balances**: a pacer without a lag, as it is at the beginning and
once its lag is forgotten, that settles slices one after the other sleeps for at
most a slice each time, its lag is never positive, and it has none after a sleep.
What it has slept, and the lag that remains, are the slices less the whole
milliseconds that they took. -/
theorem ledger_balances {durations : List Duration} (hfresh : p.lag = 0)
    (hsum : (wholeMilliseconds durations : ℤ) < longest) :
    (∀ call ∈ p.calls durations,
      call.1 ≤ p.config.slice ∧ call.2.lag ≤ 0 ∧ (call.1 ≠ 0 → call.2.lag = 0)) ∧
      ((p.sleeps durations).sum : ℤ) + (p.settleAll durations).lag =
        durations.length * p.config.slice - wholeMilliseconds durations := by
  have hlag : p.lag ≤ 0 := le_of_eq hfresh
  have hexcess : p.totalExcess durations = 0 := totalExcess_eq_zero hlag (by omega)
  have hledger := sum_sleeps_add_lag hlag durations
  rw [hexcess, hfresh] at hledger
  exact ⟨calls_bounds hlag, by omega⟩

/-- Two slices at the standard rates of which the second takes up what the first has
left, and ten milliseconds more, and a third one. -/
theorem ledger_balances_overrun :
    let p := ofConfig .standard
    let durations : List Duration := [⟨0, 10000000⟩, ⟨0, 44000000⟩, ⟨0, 4000000⟩]
    p.sleeps durations = [24, 0, 20] ∧
      (∀ call ∈ p.calls durations,
        call.1 ≤ 34 ∧ call.2.lag ≤ 0 ∧ (call.1 ≠ 0 → call.2.lag = 0)) ∧
      ((p.sleeps durations).sum : ℤ) + (p.settleAll durations).lag = 3 * 34 - 58 := by
  intro p durations
  have hsum : (wholeMilliseconds durations : ℤ) < longest := by decide
  exact ⟨by decide, ledger_balances (lag_ofConfig .standard) hsum⟩

/-! ### Real time -/

end Pacer

/-- A length of time in billionths of a second. -/
def Duration.total (d : Duration) : ℕ := d.seconds * 1000000000 + d.nanoseconds

/-- What is left of a length of time besides its whole milliseconds. -/
def Duration.rest (d : Duration) : ℕ := d.nanoseconds % 1000000

lemma Duration.total_eq (d : Duration) : d.total = d.milliseconds * 1000000 + d.rest := by
  rw [total, milliseconds, rest]
  omega

namespace Pacer

variable {p : Pacer}

/-- The parts of a millisecond of durations. -/
def totalRest (durations : List Duration) : ℕ := (durations.map Duration.rest).sum

/-- By how much the time that slices took and were slept after is longer than the
slices, in billionths of a second. -/
def drift (p : Pacer) (durations : List Duration) : ℤ :=
  (durations.map Duration.total).sum + 1000000 * (p.sleeps durations).sum -
    1000000 * (durations.length * p.config.slice)

lemma sum_total_eq (durations : List Duration) :
    (durations.map Duration.total).sum =
      1000000 * wholeMilliseconds durations + totalRest durations := by
  induction durations with
  | nil => rfl
  | cons elapsed durations ih =>
      simp only [wholeMilliseconds, totalRest, List.map_cons, List.sum_cons] at ih ⊢
      rw [ih, elapsed.total_eq]
      omega

/-- The real time is longer than the slices by the lag and by what the account does
not know of. -/
lemma drift_eq (hlag : p.lag = 0) (durations : List Duration) :
    p.drift durations = 1000000 * -(p.settleAll durations).lag + totalRest durations +
      1000000 * p.totalExcess durations := by
  have hledger := sum_sleeps_add_lag (le_of_eq hlag) durations
  rw [drift, sum_total_eq]
  simp only [Nat.cast_add, Nat.cast_mul, Nat.cast_ofNat]
  linarith

/-- **What is lost**: after any number of slices, the real time is longer than the
slices by the lag that the pacer remembers, by the parts of a millisecond that the
slices took, and by what does not fit the range of durations. So it is longer than
the lag by less than a millisecond exactly if everything fits and those parts
together are less than one; they add up from slice to slice. -/
theorem drift_lt_iff (config : PacingConfig) (durations : List Duration) :
    let p := ofConfig config
    p.drift durations = 1000000 * -(p.settleAll durations).lag + totalRest durations +
        1000000 * p.totalExcess durations ∧
      (p.drift durations < 1000000 * -(p.settleAll durations).lag + 1000000 ↔
        p.totalExcess durations = 0 ∧ totalRest durations < 1000000) := by
  intro p
  have hdrift := drift_eq (p := p) (lag_ofConfig config) durations
  have hexcess := p.totalExcess_nonneg durations
  refine ⟨hdrift, ?_⟩
  constructor
  · intro h
    omega
  · rintro ⟨hnone, hrest⟩
    omega

/-- Two slices that overrun by nine tenths of a millisecond each: the pacer
remembers nothing of it, and is late by more than a millisecond. -/
theorem drift_of_overruns :
    let p := ofConfig .standard
    let durations : List Duration := [⟨0, 34900000⟩, ⟨0, 34900000⟩]
    p.sleeps durations = [0, 0] ∧ (p.settleAll durations).lag = 0 ∧
      p.drift durations = 1800000 ∧
      ¬p.drift durations < 1000000 * -(p.settleAll durations).lag + 1000000 := by
  decide

end Pacer

end M68HC11
