import M68HC11.Pacing.Config
import M68HC11.Run

/-!
The pacer: it runs a machine slice by slice and keeps the account of the time
that slices took.

* `settle` says how long to sleep after a slice. A slice that took too long
  leaves a lag, which is taken off the sleep of later slices. Durations are
  counted in whole milliseconds, in the range of a signed number of 64 bits
  at the ends of which they stay (`clamp`).
* `runSlice` runs a slice and refreshes the displays.
-/

namespace M68HC11

/-- The largest duration that can be accounted for, in milliseconds. -/
def longest : Int := 0x7FFFFFFFFFFFFFFF

/-- The number nearest to `n` in the range of durations and lags. -/
def clamp (n : Int) : Int := max (-longest - 1) (min n longest)

/-- A number in the range is not changed. -/
theorem clamp_of_mem {n : Int} (hlow : -longest - 1 ≤ n) (hhigh : n ≤ longest) : clamp n = n := by
  unfold clamp
  omega

/-- A length of time. -/
structure Duration where
  seconds : Nat
  /-- Billionths of a second in addition. -/
  nanoseconds : Nat
  deriving DecidableEq, Repr

/-- The whole milliseconds of a length of time. -/
def Duration.milliseconds (d : Duration) : Nat := d.seconds * 1000 + d.nanoseconds / 1000000

/-- A pacer. The lag is zero or negative: the milliseconds by which slices
have run over. -/
structure Pacer where
  config : PacingConfig
  lag : Int
  deriving DecidableEq, Repr

/-- What running a slice leads to. -/
structure SliceOutcome where
  pacer : Pacer
  machine : Machine
  steps : Nat
  ending : RunEnding
  /-- How many milliseconds to sleep before the next slice. -/
  sleep : Nat

namespace Pacer

/-- A pacer without a lag. -/
def ofConfig (config : PacingConfig) : Pacer := ⟨config, 0⟩

/-- What is left of a slice after the time it took and the lag. -/
def balance (p : Pacer) (elapsed : Duration) : Int :=
  clamp (clamp (p.config.slice - min (elapsed.milliseconds : Int) longest) + p.lag)

/-- How many milliseconds to sleep after a slice, and the pacer with the lag
that remains. -/
def settle (p : Pacer) (elapsed : Duration) : Nat × Pacer :=
  let balance := p.balance elapsed
  if 0 < balance then (balance.toNat, { p with lag := 0 }) else (0, { p with lag := balance })

/-- Forgets the lag. -/
def forgetLag (p : Pacer) : Pacer := { p with lag := 0 }

/-- The value of the cycle counter at which a slice ends; the counter's
largest value if the slice would go past it. -/
def sliceTarget (p : Pacer) (m : Machine) : UInt64 :=
  UInt64.ofNat (min (m.cycles.toNat + p.config.sliceCycles.toNat) (UInt64.size - 1))

/-- Runs a slice, refreshes the displays and accounts for the time it
took. -/
def runSlice (p : Pacer) (m : Machine) (elapsed : Duration) : SliceOutcome :=
  let run := m.runUntil (p.sliceTarget m)
  let (sleep, settled) := p.settle elapsed
  ⟨settled, run.machine.refreshDisplays, run.steps, run.ending, sleep⟩

@[simp]
theorem lag_ofConfig (config : PacingConfig) : (ofConfig config).lag = 0 := rfl

@[simp]
theorem lag_forgetLag (p : Pacer) : p.forgetLag.lag = 0 := rfl

/-- Settling a slice leaves the rates as they are. -/
@[simp]
theorem config_settle (p : Pacer) (elapsed : Duration) :
    (p.settle elapsed).2.config = p.config := by
  simp only [settle]
  split <;> rfl

end Pacer

end M68HC11
