import M68HC11.Pacing.Loop
import M68HC11.Proofs.Slices

/-!
Paced machines, against machines that are stepped.

* `PacingLoop.Pausing`: the ways of a pacing loop until it pauses, which are
  made of slices (`PacingLoop.Pausing.made_of_slices`);
* `Machine.slices_eq_steps` (**slicing is invisible**): slices one after the
  other are together as many single steps, whatever the rates.
-/

namespace M68HC11

/-! ### Pacing loops until they pause -/

namespace PacingLoop

/-- The ways of a pacing loop until it is about to pause at an address, with
the slices it runs. Between two of its actions other threads may change the
flags as they like. -/
inductive Pausing : PacingLoop → List SliceOutcome → PacingLoop → UInt16 → Prop
  /-- The loop is about to pause. -/
  | pause {l : PacingLoop} {address : UInt16} (hpoint : l.point = .pause address) :
      Pausing l [] l address
  /-- Another thread changes the flags. -/
  | flags {l l' : PacingLoop} {slices : List SliceOutcome} {address : UInt16} (flags : PacingFlags)
      (rest : Pausing { l with flags } slices l' address) : Pausing l slices l' address
  /-- The loop looks at a flag. -/
  | look {l l' : PacingLoop} {slices : List SliceOutcome} {address : UInt16} (elapsed : Duration)
      (hpoint : l.point = .checkQuit ∨ l.point = .checkRunning)
      (rest : Pausing (l.act elapsed) slices l' address) : Pausing l slices l' address
  /-- The loop runs a slice, for which there is room. -/
  | slice {l l' : PacingLoop} {slices : List SliceOutcome} {address : UInt16} (elapsed : Duration)
      (hpoint : l.point = .runSlice) (hroom : l.machine.RoomFor l.pacer.config)
      (rest : Pausing (l.act elapsed) slices l' address) :
      Pausing l (l.pacer.runSlice l.machine elapsed :: slices) l' address

/-- A look at a flag changes neither the machine nor the rates, and no pause
comes of it. -/
lemma act_of_look {l : PacingLoop} (elapsed : Duration)
    (hpoint : l.point = .checkQuit ∨ l.point = .checkRunning) :
    (l.act elapsed).machine = l.machine ∧ (l.act elapsed).pacer.config = l.pacer.config ∧
      ∀ address, (l.act elapsed).point ≠ .pause address := by
  obtain ⟨machine, pacer, ⟨running, quit⟩, point⟩ := l
  rcases hpoint with rfl | rfl
  · cases quit <;> exact ⟨rfl, rfl, fun _ => LoopPoint.noConfusion⟩
  · cases running <;> exact ⟨rfl, rfl, fun _ => LoopPoint.noConfusion⟩

/-- A slice leaves the rates as they are. -/
lemma config_runSlice (p : Pacer) (m : Machine) (elapsed : Duration) :
    (p.runSlice m elapsed).pacer.config = p.config :=
  p.config_settle elapsed

/-- After a slice the loop pauses if the slice was halted. -/
lemma point_act_of_runSlice {l : PacingLoop} (elapsed : Duration) (hpoint : l.point = .runSlice) :
    (l.act elapsed).point =
      match (l.pacer.runSlice l.machine elapsed).ending.haltedAt with
      | some address => .pause address
      | none => .checkQuit := by
  rw [act_of_runSlice hpoint]
  cases (l.pacer.runSlice l.machine elapsed).ending.haltedAt <;> rfl

namespace Pausing

variable {l l' : PacingLoop} {slices : List SliceOutcome} {address : UInt16}

/-- A loop that is about to pause runs no slice before it does. -/
lemma of_pause (h : Pausing l slices l' address) {next : UInt16} (hpoint : l.point = .pause next) :
    slices = [] ∧ l'.machine = l.machine ∧ next = address := by
  induction h with
  | pause hpause =>
      rw [hpoint] at hpause
      cases hpause
      exact ⟨rfl, rfl, rfl⟩
  | flags _ _ ih => exact ih hpoint
  | look _ hlook =>
      rw [hpoint] at hlook
      rcases hlook with hlook | hlook <;> cases hlook
  | slice _ hslice =>
      rw [hpoint] at hslice
      cases hslice

/-- The slices that a loop runs until it pauses are slices one after the
other, of which the last is halted. -/
lemma made_of_slices (h : Pausing l slices l' address)
    (hpoint : ∀ address, l.point ≠ .pause address) :
    Machine.Slices l.pacer.config l.machine slices ∧
      l'.machine = l.machine.afterSlices slices ∧
        ∃ slice ∈ slices.getLast?, slice.ending.haltedAt = some address := by
  induction h with
  | pause hpause => exact absurd hpause (hpoint _)
  | flags _ _ ih => exact ih hpoint
  | look elapsed hlook _ ih =>
      obtain ⟨hmachine, hconfig, hnot⟩ := act_of_look elapsed hlook
      have hslices := ih hnot
      rwa [hmachine, hconfig] at hslices
  | @slice l l' slices address elapsed hslice hroom rest ih =>
      have hnext := point_act_of_runSlice elapsed hslice
      have hmachine : (l.act elapsed).machine = (l.pacer.runSlice l.machine elapsed).machine := by
        rw [act_of_runSlice hslice]
      have hconfig : (l.act elapsed).pacer.config = l.pacer.config := by
        rw [act_of_runSlice hslice]
        exact config_runSlice l.pacer l.machine elapsed
      rw [hmachine, hconfig] at ih
      cases hend : (l.pacer.runSlice l.machine elapsed).ending.haltedAt with
      | some halt =>
          rw [hend] at hnext
          obtain ⟨rfl, hlast, rfl⟩ := rest.of_pause hnext
          exact ⟨.halted hroom hend, hlast.trans hmachine, _, rfl, hend⟩
      | none =>
          rw [hend] at hnext
          obtain ⟨hslices, hlast, last, hmem, hhalt⟩ :=
            ih fun _ hpause => LoopPoint.noConfusion (hnext.symm.trans hpause)
          refine ⟨.next hroom hend hslices, hlast, last, ?_, hhalt⟩
          cases slices with
          | nil => cases hmem
          | cons next slices => rwa [List.getLast?_cons_cons]

/-- A loop that begins pauses after a stretch of steps, where it leads. -/
lemma stretch {m : Machine} {config : PacingConfig} (hcycles : 0 < config.sliceCycles)
    (h : Pausing (start m config) slices l' address) :
    ∃ n, Machine.Stretch m n (some address) ∧
      l'.machine.unrefreshed = (Machine.stepTimes n m).unrefreshed := by
  obtain ⟨hslices, hmachine, last, hmem, hhalt⟩ := h.made_of_slices fun _ => LoopPoint.noConfusion
  obtain ⟨hend, hstretch⟩ := hslices.stretch hcycles
  have hlast := hstretch last hmem
  rw [hhalt] at hlast
  exact ⟨_, hlast, by rw [hmachine]; exact hend⟩

/-- A loop that looks at its flags can run a slice next, and goes on from where
that leads. -/
lemma exists_of_slice {m : Machine} {p : Pacer} {flags : PacingFlags} (hroom : m.RoomFor p.config)
    (rest : ∃ slices l',
      Pausing (act ⟨m, p, ⟨true, false⟩, .runSlice⟩ ⟨0, 0⟩) slices l' address) :
    ∃ slices l', Pausing ⟨m, p, flags, .checkQuit⟩ slices l' address := by
  obtain ⟨slices, l', rest⟩ := rest
  exact ⟨_, l', .flags ⟨true, false⟩ (.look ⟨0, 0⟩ (.inl rfl)
    (.look ⟨0, 0⟩ (.inr rfl) (.slice ⟨0, 0⟩ rfl hroom rest)))⟩

/-- It pauses if the slice is halted. -/
lemma exists_of_halted {m : Machine} {p : Pacer} {flags : PacingFlags} (hroom : m.RoomFor p.config)
    (hhalt : (p.runSlice m ⟨0, 0⟩).ending.haltedAt = some address) :
    ∃ slices l', Pausing ⟨m, p, flags, .checkQuit⟩ slices l' address := by
  refine exists_of_slice hroom ⟨_, _, .pause ?_⟩
  rw [point_act_of_runSlice _ rfl, hhalt]

/-- It looks at its flags again if the slice is not halted. -/
lemma exists_of_not_halted {m : Machine} {p : Pacer} {flags : PacingFlags}
    (hroom : m.RoomFor p.config) (hrun : (p.runSlice m ⟨0, 0⟩).ending.haltedAt = none)
    (rest : ∃ slices l', Pausing ⟨(p.runSlice m ⟨0, 0⟩).machine, (p.runSlice m ⟨0, 0⟩).pacer,
      ⟨true, false⟩, .checkQuit⟩ slices l' address) :
    ∃ slices l', Pausing ⟨m, p, flags, .checkQuit⟩ slices l' address := by
  refine exists_of_slice hroom ?_
  rw [act_of_runSlice rfl, hrun]
  exact rest

end Pausing

end PacingLoop

namespace Machine

/-- **Slicing is invisible**: slices of a machine one after the other, until
one is halted, lead where their steps lead when they are made one by one, but
for what the displays were shown; the listener hears of the same halts. No step
but the very last one halts, and it does where the last slice says. Each slice
is a stretch of steps that takes its cycles and at most forty more unless it
is halted, and shows each display the core once, at its end. Therefore a
machine that is paced is paused by the same step, in the same state, whatever
the rates are. -/
theorem slices_eq_steps {m : Machine} {config : PacingConfig} {slices : List SliceOutcome}
    (hcycles : 0 < config.sliceCycles) (h : Slices config m slices) :
    let n := sliceSteps slices
    (m.afterSlices slices).unrefreshed = (stepTimes n m).unrefreshed ∧
      haltCalls (m.afterSlices slices).journal = haltCalls (stepTimes n m).journal ∧
      (∀ i, i + 1 < n → m.haltAt? i = none) ∧
      (∀ slice ∈ slices.getLast?, 0 < n ∧ m.haltAt? (n - 1) = slice.ending.haltedAt) ∧
      (∀ i slice, slices[i]? = some slice →
        IsSlice config (m.afterSlices (slices.take i)) slice) ∧
      ∀ config', 0 < config'.sliceCycles → ∀ run run' l l' address address',
        PacingLoop.Pausing (.start m config) run l address →
          PacingLoop.Pausing (.start m config') run' l' address' →
            l.machine.unrefreshed = l'.machine.unrefreshed ∧ address = address' := by
  intro n
  obtain ⟨hend, hstretch⟩ := h.stretch hcycles
  refine ⟨hend, ?_, fun i hi => ?_, fun slice hlast => ?_, fun i slice => h.isSlice hcycles, ?_⟩
  · calc haltCalls (m.afterSlices slices).journal
        = haltCalls (m.afterSlices slices).unrefreshed.journal :=
          (haltCalls_withoutRefreshes _).symm
      _ = haltCalls (stepTimes n m).unrefreshed.journal := by rw [hend]
      _ = haltCalls (stepTimes n m).journal := haltCalls_withoutRefreshes _
  · cases hlast : slices.getLast? with
    | none =>
        have hempty : n = 0 := congrArg sliceSteps (List.getLast?_eq_none_iff.mp hlast)
        omega
    | some slice => exact (hstretch slice hlast).runs i hi
  · exact ⟨(hstretch slice hlast).pos, (hstretch slice hlast).last⟩
  · intro config' hcycles' run run' l l' address address' hpause hpause'
    obtain ⟨n, hn, hsame⟩ := hpause.stretch hcycles
    obtain ⟨n', hn', hsame'⟩ := hpause'.stretch hcycles'
    obtain ⟨rfl, rfl⟩ := hn.unique hn'
    exact ⟨hsame.trans hsame'.symm, rfl⟩

/-- An instruction that does nothing and behind it one that reads a byte, with a
breakpoint on reading it and a display. -/
def displayedRead : List Call :=
  [.writeBlock 0x20 [0x01, 0x96, 0x40], .putRegisters { initial.registers with pc := 0x20 },
    .addDataBreak .read 0x40, .addDisplay "Registers"]

/-- At two cycles a slice the first slice is the first instruction, which takes
them up, and the second one is halted by the other instruction; the display is
shown the core behind each of them. Paced at another rate, where one slice is
enough, the machine is paused in the same state. -/
theorem slices_eq_steps_displayedRead :
    let m := initial.performAll displayedRead
    ∃ first second : SliceOutcome, Slices ⟨60, 30⟩ m [first, second] ∧
      first.ending = .reached ∧ m.cycles.toNat + 2 ≤ first.machine.cycles.toNat ∧
      second.ending.haltedAt = some 0x21 ∧ sliceSteps [first, second] = 2 ∧
      m.haltAt? 0 = none ∧ m.haltAt? 1 = some 0x21 ∧
      (m.afterSlices [first, second]).unrefreshed = (stepTimes 2 m).unrefreshed ∧
      refreshCalls second.machine.journal =
        [("Registers", (stepTimes 1 m).core), ("Registers", (stepTimes 2 m).core)] ∧
      ∃ run run' l l',
        PacingLoop.Pausing (.start m ⟨60, 30⟩) run l 0x21 ∧
          PacingLoop.Pausing (.start m .standard) run' l' 0x21 ∧
            l.machine.unrefreshed = l'.machine.unrefreshed := by
  intro m
  have hcycles : 0 < PacingConfig.sliceCycles ⟨60, 30⟩ := by decide +kernel
  have hcycles' : 0 < PacingConfig.standard.sliceCycles := by decide +kernel
  have hroom : m.RoomFor ⟨60, 30⟩ := by decide +kernel
  have hroom' : m.RoomFor .standard := by decide +kernel
  have hdisplays : m.displays.names = ["Registers"] := by decide +kernel
  have hnone : refreshCalls m.journal = [] := by decide +kernel
  have hhalt' : ((Pacer.ofConfig .standard).runSlice m ⟨0, 0⟩).ending.haltedAt = some 0x21 := by
    decide +kernel
  obtain ⟨first, hfirst⟩ : ∃ slice, slice = (Pacer.ofConfig ⟨60, 30⟩).runSlice m ⟨0, 0⟩ := ⟨_, rfl⟩
  obtain ⟨second, hsecond⟩ : ∃ slice, slice = first.pacer.runSlice first.machine ⟨0, 0⟩ := ⟨_, rfl⟩
  have hreached : first.ending = .reached := by rw [hfirst]; decide +kernel
  have hsteps : first.steps = 1 := by rw [hfirst]; decide +kernel
  have hpacer : first.pacer = ⟨⟨60, 30⟩, 0⟩ := by rw [hfirst]; decide +kernel
  have hnext : first.machine.RoomFor first.pacer.config := by rw [hfirst]; decide +kernel
  have hhalt : second.ending.haltedAt = some 0x21 := by rw [hsecond, hfirst]; decide +kernel
  have hsteps' : second.steps = 1 := by rw [hsecond, hfirst]; decide +kernel
  clear_value m
  have hrun : first.ending.haltedAt = none := by rw [hreached]; rfl
  have hslices : Slices ⟨60, 30⟩ m [first, second] := by
    rw [hpacer] at hsecond hnext
    subst hsecond hfirst
    exact .next hroom hrun (.halted hnext hhalt)
  obtain ⟨run, l, hpause⟩ : ∃ run l, PacingLoop.Pausing (.start m ⟨60, 30⟩) run l 0x21 := by
    subst hsecond hfirst
    exact PacingLoop.Pausing.exists_of_not_halted hroom hrun
      (PacingLoop.Pausing.exists_of_halted hnext hhalt)
  obtain ⟨run', l', hpause'⟩ : ∃ run l, PacingLoop.Pausing (.start m .standard) run l 0x21 :=
    PacingLoop.Pausing.exists_of_halted hroom' hhalt'
  obtain ⟨hend, -, hruns, hlast, hall, hrates⟩ := slices_eq_steps hcycles hslices
  obtain ⟨hsame, -⟩ := hrates _ hcycles' _ _ _ _ _ _ hpause hpause'
  have htwo : sliceSteps [first, second] = 2 := by
    rw [sliceSteps, List.map_cons, List.map_singleton, hsteps, hsteps']
    rfl
  rw [htwo] at hend hruns hlast
  have hslice : IsSlice ⟨60, 30⟩ m first := hall 0 first rfl
  have hshown : refreshCalls second.machine.journal =
      [("Registers", (stepTimes 1 m).core), ("Registers", (stepTimes 2 m).core)] := by
    have hcore : first.machine.core = (stepTimes 1 m).core := by
      rw [hslice.core_machine, hsteps]
    have hcore' : second.machine.core = (stepTimes 2 m).core := by
      rw [← core_unrefreshed (stepTimes 2 m), ← hend]
      rfl
    have hcalls := hslices.refreshCalls_eq hcycles
    rw [hnone, hdisplays] at hcalls
    rw [← hcore, ← hcore']
    exact hcalls
  have hcharged : m.cycles.toNat + 2 ≤ first.machine.cycles.toNat := by
    have hbudget : (PacingConfig.sliceCycles ⟨60, 30⟩).toNat = 2 := by decide +kernel
    rw [← hbudget]
    exact (hslice.charged hrun).1
  exact ⟨first, second, hslices, hreached, hcharged, hhalt, htwo,
    hruns 0 (by decide), (hlast second rfl).2.trans hhalt, hend, hshown,
    run, run', l, l', hpause, hpause', hsame⟩

end Machine

end M68HC11
