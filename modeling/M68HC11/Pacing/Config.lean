/-!
How fast a machine is to run: the rate of its clock, and how often in a second
its displays are refreshed.

Time is divided into slices, one for each refresh. A slice is `slice` long and
has room for `sliceCycles` cycles; a refresh rate of zero counts as one.
-/

namespace M68HC11

/-- The rates at which a machine runs, both per second. -/
structure PacingConfig where
  clock : UInt64
  refresh : UInt32
  deriving DecidableEq, Repr

namespace PacingConfig

/-- Two million cycles and thirty refreshes a second. -/
def standard : PacingConfig := ⟨2000000, 30⟩

instance : Inhabited PacingConfig := ⟨standard⟩

/-- Refreshes per second, but at least one. -/
def slicesPerSecond (c : PacingConfig) : Nat := max c.refresh.toNat 1

/-- How many cycles are executed in a slice. -/
def sliceCycles (c : PacingConfig) : UInt64 := UInt64.ofNat (c.clock.toNat / c.slicesPerSecond)

/-- How many milliseconds a slice is long, rounded up. -/
def slice (c : PacingConfig) : Nat := (1000 + c.slicesPerSecond - 1) / c.slicesPerSecond

theorem slicesPerSecond_pos (c : PacingConfig) : 0 < c.slicesPerSecond := by
  unfold slicesPerSecond
  omega

/-- The cycles of a slice fit the counter. -/
theorem toNat_sliceCycles (c : PacingConfig) :
    c.sliceCycles.toNat = c.clock.toNat / c.slicesPerSecond := by
  have h := Nat.div_le_self c.clock.toNat c.slicesPerSecond
  have := c.clock.toNat_lt
  rw [sliceCycles, UInt64.toNat_ofNat', Nat.mod_eq_of_lt (by omega)]

/-- A slice is at least one millisecond and at most a second long. -/
theorem slice_bounds (c : PacingConfig) : 1 ≤ c.slice ∧ c.slice ≤ 1000 := by
  have h := c.slicesPerSecond_pos
  unfold slice
  constructor
  · rw [Nat.le_div_iff_mul_le h]
    omega
  · rw [Nat.div_le_iff_le_mul_add_pred h]
    have : 1000 ≤ c.slicesPerSecond * 1000 := Nat.le_mul_of_pos_left 1000 h
    omega

end PacingConfig

end M68HC11
