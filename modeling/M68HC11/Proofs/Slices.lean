import M68HC11.Pacing.Pacer
import M68HC11.Proofs.Refreshes
import M68HC11.Proofs.Runs

/-!
Slices of a machine, against its single steps.

* `Machine.Stretch`: so many steps of which at most the last halts. The run of
  a slice is one (`Machine.Run.stretch`), and stretches that do not halt are
  put before others (`Machine.Stretch.append`);
* `Machine.IsSlice`: what a single slice is, and `Machine.isSlice_runSlice`:
  pacers run such slices;
* `Machine.Slices`: slices one after the other until one is halted, which
  together are a stretch of steps (`Machine.Slices.stretch`) and show each
  display the core once a slice (`Machine.Slices.refreshCalls_eq`).
-/

namespace M68HC11

namespace Machine

variable {m m' : Machine}

/-! ### Stretches of steps -/

/-- Steps one after the other are counted together. -/
lemma stepTimes_add (n k : Nat) (m : Machine) :
    stepTimes (n + k) m = stepTimes k (stepTimes n m) := by
  induction n generalizing m with
  | zero => rw [Nat.zero_add]; rfl
  | succ n ih =>
      rw [Nat.add_right_comm]
      exact ih m.step.1

/-- Where step number `i` of a machine halts, counted from zero and whatever
the ones before it did. -/
def haltAt? (m : Machine) (i : Nat) : Option UInt16 := (stepTimes i m).step.2.breakpoint?

/-- The steps after some steps are the later ones. -/
lemma haltAt?_stepTimes (n i : Nat) (m : Machine) :
    (stepTimes n m).haltAt? i = m.haltAt? (n + i) := by
  rw [haltAt?, haltAt?, stepTimes_add]

/-- What displays were shown has no influence on halts. -/
lemma haltAt?_congr (h : m.unrefreshed = m'.unrefreshed) (i : Nat) :
    m.haltAt? i = m'.haltAt? i := by
  have hunrefreshed (m : Machine) : m.unrefreshed.haltAt? i = m.haltAt? i := by
    rw [haltAt?, stepTimes_unrefreshed, step_unrefreshed]
    rfl
  rw [← hunrefreshed m, h, hunrefreshed m']

/-- So many steps of which at most the last halts; `last` is where it does. -/
structure Stretch (m : Machine) (n : Nat) (last : Option UInt16) : Prop where
  pos : 0 < n
  runs : ∀ i, i + 1 < n → m.haltAt? i = none
  last : m.haltAt? (n - 1) = last

namespace Stretch

variable {n k : Nat} {last : Option UInt16}

/-- A single step. -/
lemma single (h : m.step.2.breakpoint? = last) : Stretch m 1 last where
  pos := Nat.one_pos
  runs i hi := by omega
  last := h

/-- A stretch that does not halt is put before another one. -/
lemma append (h : Stretch m n none) (rest : Stretch (stepTimes n m) k last) :
    Stretch m (n + k) last where
  pos := Nat.add_pos_left h.pos k
  runs i hi := by
    rcases Nat.lt_trichotomy (i + 1) n with hlt | heq | hgt
    · exact h.runs i hlt
    · rw [← h.last, ← heq, Nat.add_sub_cancel]
    · obtain ⟨j, rfl⟩ : ∃ j, i = n + j := ⟨i - n, by omega⟩
      rw [← haltAt?_stepTimes]
      exact rest.runs j (by omega)
  last := by
    rw [Nat.add_sub_assoc rest.pos, ← haltAt?_stepTimes]
    exact rest.last

/-- What displays were shown does not matter. -/
lemma congr (h : Stretch m n last) (hsame : m.unrefreshed = m'.unrefreshed) :
    Stretch m' n last where
  pos := h.pos
  runs i hi := by rw [← haltAt?_congr hsame, h.runs i hi]
  last := by rw [← haltAt?_congr hsame, h.last]

/-- There is one stretch that ends in a halt, at most. -/
lemma unique {address address' : UInt16} (h : Stretch m n (some address))
    (h' : Stretch m k (some address')) : n = k ∧ address = address' := by
  have hpos := h.pos
  have hpos' := h'.pos
  have hsame : n = k := by
    rcases Nat.lt_trichotomy n k with hlt | heq | hgt
    · have hnone := h'.runs (n - 1) (by omega)
      rw [h.last] at hnone
      cases hnone
    · exact heq
    · have hnone := h.runs (k - 1) (by omega)
      rw [h'.last] at hnone
      cases hnone
  subst hsame
  exact ⟨rfl, Option.some.inj (h.last.symm.trans h'.last)⟩

end Stretch

/-- The steps of a run are a stretch. -/
lemma Run.stretch {target : UInt64} {n : Nat} {ending : RunEnding}
    (h : Run target m n ending m') (hpos : 0 < n) : Stretch m n ending.haltedAt := by
  induction h with
  | reached => exact absurd hpos (Nat.lt_irrefl 0)
  | halted _ hhalt => exact .single hhalt
  | @step m m' n _ _ hrun rest ih =>
      cases n with
      | zero =>
          cases rest with
          | reached => exact .single hrun
      | succ n =>
          rw [Nat.add_comm]
          exact (Stretch.single hrun).append (ih n.succ_pos)

/-- A run that is not halted passes its target by at most forty cycles. -/
lemma Run.overshoot {target : UInt64} {n : Nat} {ending : RunEnding} (htarget : Roomy target)
    (h : Run target m n ending m') (hpos : 0 < n) (hnone : ending.haltedAt = none) :
    target.toNat ≤ m'.cycles.toNat ∧ m'.cycles.toNat ≤ target.toNat + 40 := by
  cases ending with
  | halted => cases hnone
  | cutOff => exact absurd rfl h.ne_cutOff
  | reached =>
      have hlow := h.target_le
      obtain ⟨-, -, hhigh⟩ := h.bounds htarget
      have habove := hhigh (Nat.ne_of_gt hpos)
      rw [UInt64.lt_iff_toNat_lt] at hlow
      omega

/-! ### Slices -/

/-- A machine has room for a slice: the counter can go to the end of it, and a
step further. -/
def RoomFor (m : Machine) (config : PacingConfig) : Prop :=
  m.cycles.toNat + config.sliceCycles.toNat + 41 ≤ 2 ^ 64

instance (m : Machine) (config : PacingConfig) : Decidable (m.RoomFor config) :=
  inferInstanceAs (Decidable (m.cycles.toNat + config.sliceCycles.toNat + 41 ≤ 2 ^ 64))

/-- Slices of a machine one after the other, each with room, until one is
halted or no further one is run. The lag of the pacer decides only how long to
sleep, and may be anything. -/
inductive Slices (config : PacingConfig) : Machine → List SliceOutcome → Prop
  /-- No slice is run. -/
  | none {m : Machine} : Slices config m []
  /-- The slice is halted. -/
  | halted {m : Machine} {lag : Int} {elapsed : Duration} {address : UInt16}
      (hroom : m.RoomFor config)
      (hhalt : (Pacer.runSlice ⟨config, lag⟩ m elapsed).ending.haltedAt = some address) :
      Slices config m [Pacer.runSlice ⟨config, lag⟩ m elapsed]
  /-- The slice is not halted, and slices go on from where it leads. -/
  | next {m : Machine} {lag : Int} {elapsed : Duration} {slices : List SliceOutcome}
      (hroom : m.RoomFor config)
      (hrun : (Pacer.runSlice ⟨config, lag⟩ m elapsed).ending.haltedAt = Option.none)
      (rest : Slices config (Pacer.runSlice ⟨config, lag⟩ m elapsed).machine slices) :
      Slices config m (Pacer.runSlice ⟨config, lag⟩ m elapsed :: slices)

/-- Where slices lead. -/
def afterSlices (m : Machine) (slices : List SliceOutcome) : Machine :=
  slices.foldl (fun _ slice => slice.machine) m

/-- How many steps slices have together. -/
def sliceSteps (slices : List SliceOutcome) : Nat := (slices.map (·.steps)).sum

/-- What a slice of a machine is: a stretch of steps, after which each display
is shown the core once; unless it is halted, it takes the cycles of a slice
and at most forty more. -/
structure IsSlice (config : PacingConfig) (m : Machine) (slice : SliceOutcome) : Prop where
  stretch : Stretch m slice.steps slice.ending.haltedAt
  not_cutOff : slice.ending ≠ .cutOff
  machine : slice.machine = (stepTimes slice.steps m).refreshDisplays
  shown : refreshCalls slice.machine.journal = refreshCalls m.journal ++
    m.displays.names.map (·, (stepTimes slice.steps m).core)
  charged : slice.ending.haltedAt = none →
    m.cycles.toNat + config.sliceCycles.toNat ≤ slice.machine.cycles.toNat ∧
      slice.machine.cycles.toNat ≤ m.cycles.toNat + config.sliceCycles.toNat + 40

namespace IsSlice

variable {config : PacingConfig} {slice : SliceOutcome}

/-- A slice leads to the core that its steps lead to. -/
lemma core_machine (h : IsSlice config m slice) :
    slice.machine.core = (stepTimes slice.steps m).core := by
  rw [h.machine]
  rfl

/-- A slice keeps the displays. -/
lemma displays_machine (h : IsSlice config m slice) : slice.machine.displays = m.displays := by
  rw [h.machine]
  exact displays_stepTimes slice.steps m

end IsSlice

section

variable {config : PacingConfig} (hcycles : 0 < config.sliceCycles)

/-- The target of a slice is where its budget leads, but not past the largest
value of the counter. -/
lemma toNat_sliceTarget (p : Pacer) (m : Machine) :
    (p.sliceTarget m).toNat =
      min (m.cycles.toNat + p.config.sliceCycles.toNat) (2 ^ 64 - 1) := by
  rw [Pacer.sliceTarget, UInt64.toNat_ofNat']
  exact Nat.mod_eq_of_lt (by have : UInt64.size = 2 ^ 64 := rfl; omega)

/-- Where there is room the target of a slice is not moved. -/
lemma RoomFor.toNat_sliceTarget (h : m.RoomFor config) (lag : Int) :
    (Pacer.sliceTarget ⟨config, lag⟩ m).toNat = m.cycles.toNat + config.sliceCycles.toNat := by
  have hroom : m.cycles.toNat + config.sliceCycles.toNat ≤ 2 ^ 64 - 1 := by
    rw [RoomFor] at h
    omega
  exact (Machine.toNat_sliceTarget ⟨config, lag⟩ m).trans (Nat.min_eq_left hroom)

/-- The target of a slice leaves room for a step. -/
lemma RoomFor.roomy_sliceTarget (h : m.RoomFor config) (lag : Int) :
    Roomy (Pacer.sliceTarget ⟨config, lag⟩ m) := by
  rw [Roomy, h.toNat_sliceTarget lag]
  exact h

include hcycles in
/-- The target of a slice is ahead. -/
lemma RoomFor.lt_sliceTarget (h : m.RoomFor config) (lag : Int) :
    m.cycles < Pacer.sliceTarget ⟨config, lag⟩ m := by
  rw [UInt64.lt_iff_toNat_lt, h.toNat_sliceTarget lag]
  exact Nat.lt_add_of_pos_right (UInt64.lt_iff_toNat_lt.mp hcycles)

include hcycles in
/-- A slice is halted by its first step if that halts. -/
lemma haltedAt_runSlice (hroom : m.RoomFor config) {address : UInt16}
    (hhalt : m.step.2.breakpoint? = some address) (lag : Int) (elapsed : Duration) :
    (Pacer.runSlice ⟨config, lag⟩ m elapsed).ending.haltedAt = some address := by
  have hrun : Run (Pacer.sliceTarget ⟨config, lag⟩ m) m 1 (.halted address) m.step.1 :=
    .halted (hroom.lt_sliceTarget hcycles lag) hhalt
  exact congrArg (·.ending.haltedAt) (hrun.runUntil_eq (hroom.roomy_sliceTarget lag))

include hcycles in
/-- A pacer runs slices. -/
lemma isSlice_runSlice (hroom : m.RoomFor config) (lag : Int) (elapsed : Duration) :
    IsSlice config m (Pacer.runSlice ⟨config, lag⟩ m elapsed) := by
  have htarget := hroom.toNat_sliceTarget lag
  have hroomy := hroom.roomy_sliceTarget lag
  have hrun := run_runUntil hroomy m
  have hpos := hrun.pos_of_lt (hroom.lt_sliceTarget hcycles lag)
  have hmachine := hrun.machine_eq
  refine ⟨hrun.stretch hpos, hrun.ne_cutOff, ?_, ?_, fun hnone => ?_⟩
  · exact congrArg refreshDisplays hmachine
  · change refreshCalls (refreshDisplays (m.runUntil _).machine).journal = _
    rw [hmachine, refreshDisplays, tell, refreshCalls_append, refreshCalls_stepTimes,
      filterMap_refresh?_refresh, displays_stepTimes]
    rfl
  · have hcounter := hrun.overshoot hroomy hpos hnone
    rw [htarget] at hcounter
    exact hcounter

include hcycles in
/-- Each of the slices that are run is one. -/
lemma Slices.isSlice {slices : List SliceOutcome} (h : Slices config m slices) {i : Nat}
    {slice : SliceOutcome} (hi : slices[i]? = some slice) :
    IsSlice config (m.afterSlices (slices.take i)) slice := by
  induction h generalizing i with
  | none => cases hi
  | halted hroom =>
      cases i with
      | zero =>
          cases hi
          exact isSlice_runSlice hcycles hroom _ _
      | succ i => cases hi
  | next hroom _ _ ih =>
      cases i with
      | zero =>
          cases hi
          exact isSlice_runSlice hcycles hroom _ _
      | succ i => exact ih hi

include hcycles in
/-- Slice after slice each display is shown the core where the slice leads. -/
lemma Slices.refreshCalls_eq {slices : List SliceOutcome} (h : Slices config m slices) :
    refreshCalls (m.afterSlices slices).journal = refreshCalls m.journal ++
      slices.flatMap fun slice => m.displays.names.map (·, slice.machine.core) := by
  induction h with
  | none => exact (List.append_nil _).symm
  | @halted m lag elapsed address hroom hhalt =>
      have hslice := isSlice_runSlice hcycles hroom lag elapsed
      rw [List.flatMap_singleton, hslice.core_machine]
      exact hslice.shown
  | @next m lag elapsed slices hroom hrun rest ih =>
      have hslice := isSlice_runSlice hcycles hroom lag elapsed
      rw [hslice.displays_machine, hslice.shown, ← hslice.core_machine] at ih
      rw [List.flatMap_cons, ← List.append_assoc]
      exact ih

include hcycles in
/-- Slices are a stretch of steps, and lead where it does. -/
lemma Slices.stretch {slices : List SliceOutcome} (h : Slices config m slices) :
    (m.afterSlices slices).unrefreshed = (stepTimes (sliceSteps slices) m).unrefreshed ∧
      ∀ slice ∈ slices.getLast?, Stretch m (sliceSteps slices) slice.ending.haltedAt := by
  induction h with
  | none => exact ⟨rfl, fun _ hlast => by cases hlast⟩
  | @halted m lag elapsed address hroom hhalt =>
      have hslice := isSlice_runSlice hcycles hroom lag elapsed
      refine ⟨?_, fun slice hlast => ?_⟩
      · exact (congrArg unrefreshed hslice.machine).trans (unrefreshed_refreshDisplays _)
      · cases hlast
        exact hslice.stretch
  | @next m lag elapsed slices hroom hrun rest ih =>
      obtain ⟨hend, hlast⟩ := ih
      have hslice := isSlice_runSlice hcycles hroom lag elapsed
      generalize Pacer.runSlice ⟨config, lag⟩ m elapsed = slice at *
      have hsame : slice.machine.unrefreshed = (stepTimes slice.steps m).unrefreshed := by
        rw [hslice.machine, unrefreshed_refreshDisplays]
      refine ⟨?_, fun last hmem => ?_⟩
      · calc (slice.machine.afterSlices slices).unrefreshed
            = (stepTimes (sliceSteps slices) slice.machine).unrefreshed := hend
          _ = stepTimes (sliceSteps slices) slice.machine.unrefreshed :=
              (stepTimes_unrefreshed _ _).symm
          _ = (stepTimes (sliceSteps slices) (stepTimes slice.steps m)).unrefreshed := by
              rw [hsame, stepTimes_unrefreshed]
          _ = (stepTimes (slice.steps + sliceSteps slices) m).unrefreshed := by
              rw [stepTimes_add]
      · have hstretch := hslice.stretch
        cases slices with
        | nil =>
            cases hmem
            exact hstretch
        | cons next slices =>
            rw [List.getLast?_cons_cons] at hmem
            rw [hrun] at hstretch
            exact hstretch.append ((hlast last hmem).congr hsame)

end

end Machine

end M68HC11
