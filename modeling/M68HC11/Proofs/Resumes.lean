import M68HC11.Proofs.Interleavings

/-!
Requests to run a paced machine, and the pause that may undo them.

The flag to run has two writers: other threads, which start and pause the machine,
and the loop, which clears it after a slice that was halted. Between that slice and
the clearing the others may act, and what they write then does not last.

* `PacingEvent.verdict?`: what an event says about whether the machine is to run. A
  halt says that it is not, at once;
* `PacingEvent.HaltPending`: a slice was halted, and the loop has not paused the
  machine yet, which is so exactly when it is about to (`PacingLoop.pause_iff`);
* `PacingLoop.Granted`, `PacingLoop.Overruled`: what becomes of a request to run, with
  a step lemma and a run lemma for each;
* `PacingLoop.resume_lost_iff` (**which requests to run are lost**): those that come
  while a halt is pending, and `PacingLoop.resume_lost` for one of them.
-/

namespace M68HC11

/-! ### What events say about running -/

namespace PacingEvent

/-- Whether the machine is to run according to an event, if it is about that:
another thread starts or pauses the machine, or a breakpoint halts it. -/
def verdict? : PacingEvent → Option Bool
  | other (.setRunning running) => some running
  | ranSlice (some _) => some false
  | _ => none

/-- The last that the loop did was to run a slice that was halted at the address; it
has not paused the machine yet. -/
def HaltPendingAt (address : UInt16) (events : List PacingEvent) : Prop :=
  (own events).getLast? = some (ranSlice (some address))

/-- A halt is pending, somewhere. -/
def HaltPending (events : List PacingEvent) : Prop := ∃ address, HaltPendingAt address events

/-- After an action of the loop a halt is pending if it was a halted slice. -/
lemma haltPendingAt_append {event : PacingEvent} (h : event.isOwn = true)
    (events : List PacingEvent) (address : UInt16) :
    HaltPendingAt address (events ++ [event]) ↔ event = ranSlice (some address) := by
  rw [HaltPendingAt, getLast?_own_append h, Option.some.injEq]

end PacingEvent

namespace PacingLoop

variable {l l' : PacingLoop} {event : PacingEvent} {events front back : List PacingEvent}

/-! ### Halts that are pending -/

/-- Where the loop is about to pause the machine, as an event leaves it. -/
lemma Step.pause_iff (h : Step l event l') (hown : event.isOwn = true) (address : UInt16) :
    l'.point = .pause address ↔ event = .ranSlice (some address) := by
  have hdoes := h.inversion
  cases event with
  | other action => cases hown
  | sawQuit quit =>
      obtain ⟨-, -, rfl⟩ := hdoes
      cases quit <;> exact iff_of_false LoopPoint.noConfusion PacingEvent.noConfusion
  | sawRunning running =>
      cases running <;> obtain ⟨-, -, rfl⟩ := hdoes <;>
        exact iff_of_false LoopPoint.noConfusion PacingEvent.noConfusion
  | ranSlice halt =>
      obtain ⟨-, elapsed, -, rfl⟩ := hdoes
      cases halt with
      | none => exact iff_of_false LoopPoint.noConfusion (by simp)
      | some other => simp
  | paused other =>
      obtain ⟨-, rfl⟩ := hdoes
      exact iff_of_false LoopPoint.noConfusion PacingEvent.noConfusion

/-- The loop is about to pause the machine exactly while a halt is pending. -/
lemma pause_iff {m : Machine} {config : PacingConfig} (h : Interleaved (start m config) events l)
    (address : UInt16) : l.point = .pause address ↔ PacingEvent.HaltPendingAt address events := by
  refine h.invariant (P := fun events l =>
    l.point = .pause address ↔ PacingEvent.HaltPendingAt address events) ?_ ?_
  · exact iff_of_false LoopPoint.noConfusion nofun
  · intro events l event l' hl hstep
    cases hown : event.isOwn with
    | true => rw [hstep.pause_iff hown, PacingEvent.haltPendingAt_append hown]
    | false =>
        cases event with
        | other action =>
            rw [hstep.inversion.1, hl, PacingEvent.HaltPendingAt, PacingEvent.HaltPendingAt,
              PacingEvent.own_append_other]
        | _ => cases hown

/-! ### Requests that last -/

/-- The machine is to run, and the loop is not about to pause it. -/
structure Granted (l : PacingLoop) : Prop where
  running : l.flags.running = true
  point : ∀ address, l.point ≠ .pause address

/-- It stays so while no thread pauses the machine and no breakpoint halts it. -/
lemma Granted.step (h : Granted l) (hstep : Step l event l') (hevent : event.verdict? = none) :
    Granted l' := by
  have hdoes := hstep.inversion
  cases event with
  | other action =>
      obtain ⟨hpoint, -, hflags⟩ := hdoes
      refine ⟨?_, hpoint ▸ h.point⟩
      rw [hflags]
      cases action with
      | setRunning running => cases hevent
      | askToQuit => exact h.running
      | useMachine => exact h.running
  | sawQuit quit =>
      obtain ⟨-, -, rfl⟩ := hdoes
      refine ⟨h.running, fun address => ?_⟩
      cases quit <;> exact LoopPoint.noConfusion
  | sawRunning running =>
      cases running with
      | true =>
          obtain ⟨-, -, rfl⟩ := hdoes
          exact ⟨h.running, fun _ => LoopPoint.noConfusion⟩
      | false =>
          obtain ⟨-, hrunning, -⟩ := hdoes
          exact absurd (h.running.symm.trans hrunning) (by decide)
  | ranSlice halt =>
      obtain ⟨-, elapsed, -, rfl⟩ := hdoes
      cases halt with
      | none => exact ⟨h.running, fun _ => LoopPoint.noConfusion⟩
      | some address => cases hevent
  | paused address => exact absurd hdoes.1 (h.point address)

lemma Interleaved.granted (h : Interleaved l events l') (hgranted : Granted l)
    (hevents : ∀ event ∈ events, event.verdict? = none) : Granted l' := by
  induction h with
  | nil => exact hgranted
  | cons first _ ih =>
      obtain ⟨hfirst, hrest⟩ := List.forall_mem_cons.mp hevents
      exact ih (hgranted.step first hfirst) hrest

/-! ### Requests that do not -/

/-- The loop is about to pause the machine, or has, and is not about to run a slice. -/
inductive Overruled (l : PacingLoop) : Prop
  /-- It is about to. -/
  | pending {address : UInt16} (hpoint : l.point = .pause address)
  /-- It has. -/
  | done (hquiet : Quiet l)

/-- It stays so until another thread starts the machine. -/
lemma Overruled.step (h : Overruled l) (hstep : Step l event l')
    (hevent : event ≠ .other (.setRunning true)) : Overruled l' := by
  cases h with
  | done hquiet => exact .done (hquiet.step hstep hevent)
  | pending hpoint =>
      have hdoes := hstep.inversion
      cases event with
      | other action => exact .pending (hdoes.1.trans hpoint)
      | paused address =>
          obtain ⟨-, rfl⟩ := hdoes
          exact .done ⟨rfl, LoopPoint.noConfusion⟩
      | sawQuit quit => cases hpoint.symm.trans hdoes.1
      | sawRunning running => cases running <;> cases hpoint.symm.trans hdoes.1
      | ranSlice halt => cases hpoint.symm.trans hdoes.1

lemma Interleaved.overruled (h : Interleaved l events l') (hoverruled : Overruled l)
    (hevents : .other (.setRunning true) ∉ events) : Overruled l' := by
  induction h with
  | nil => exact hoverruled
  | cons first _ ih =>
      rw [List.mem_cons, not_or] at hevents
      exact ih (hoverruled.step first (Ne.symm hevents.1)) hevents.2

/-- Where the loop is about to look whether the machine is to run, it has paused it
already. -/
lemma Overruled.quiet (h : Overruled l) (hpoint : l.point = .checkRunning) : Quiet l := by
  cases h with
  | done hquiet => exact hquiet
  | pending hpause => cases hpause.symm.trans hpoint

/-! ### Which requests are lost -/

/-- **Which requests to run are lost.** Another thread has started the machine, and
since then no thread has started or paused it and no breakpoint has halted it. Where
the loop is about to look whether the machine is to run, it is not exactly if a halt
was pending when the thread started it, for then the loop has paused the machine
after the request. In that case no slice is run until a thread starts the machine
once more; in the other case the loop goes on to the next slice. -/
theorem resume_lost_iff {m : Machine} {config : PacingConfig}
    (h : Interleaved (start m config) (front ++ .other (.setRunning true) :: back) l)
    (hpoint : l.point = .checkRunning) (hback : ∀ event ∈ back, event.verdict? = none) :
    (l.flags.running = false ↔ PacingEvent.HaltPending front) ∧
      (PacingEvent.HaltPending front → ∀ more halt rest l',
        Interleaved l (more ++ .ranSlice halt :: rest) l' → .other (.setRunning true) ∈ more) ∧
      (¬ PacingEvent.HaltPending front → ∀ event next, Step l event next → event.isOwn = true →
        event = .sawRunning true ∧ next.point = .runSlice) := by
  obtain ⟨before, hfront, hrest⟩ := h.exists_of_append
  cases hrest with
  | @cons _ asked _ _ _ first rest =>
    obtain ⟨hsame, -, hflags⟩ := first.inversion
    have hlost : PacingEvent.HaltPending front → Quiet l := by
      rintro ⟨address, hpending⟩
      have hpause := hsame.trans ((pause_iff hfront address).mpr hpending)
      refine (rest.overruled (.pending hpause) fun hmem => ?_).quiet hpoint
      cases hback _ hmem
    have hgranted : ¬ PacingEvent.HaltPending front → Granted l := by
      intro hnone
      refine rest.granted ⟨hflags ▸ rfl, fun address hpause => ?_⟩ hback
      exact hnone ⟨address, (pause_iff hfront address).mp (hsame.symm.trans hpause)⟩
    refine ⟨⟨fun hfalse => ?_, fun hpending => (hlost hpending).paused⟩, ?_, ?_⟩
    · by_contra hnone
      exact Bool.noConfusion (hfalse.symm.trans (hgranted hnone).running)
    · intro hpending more halt rest l' hmore
      exact (hlost hpending).mem_of_slice hmore
    · intro hnone event next hstep hown
      have hdoes := hstep.inversion
      cases event with
      | other action => cases hown
      | sawRunning running =>
          cases running with
          | true =>
              obtain ⟨-, -, rfl⟩ := hdoes
              exact ⟨rfl, rfl⟩
          | false => exact Bool.noConfusion (hdoes.2.1.symm.trans (hgranted hnone).running)
      | sawQuit quit => cases hpoint.symm.trans hdoes.1
      | ranSlice halt => cases hpoint.symm.trans hdoes.1
      | paused address => cases hpoint.symm.trans hdoes.1

/-- Until a breakpoint halts a machine that another thread has started. -/
def untilHalted : List PacingEvent :=
  [.other (.setRunning true), .sawQuit false, .sawRunning true, .ranSlice (some 0x20)]

/-- A loop comes that far with a machine that reads where it must not. -/
lemma exists_halted : ∃ m p, Interleaved
    (start (Machine.initial.performAll Machine.watchedRead) .standard) untilHalted
    ⟨m, p, ⟨true, false⟩, .pause 0x20⟩ := by
  have hhalt : (Machine.initial.performAll Machine.watchedRead).step.2.breakpoint? = some 0x20 := by
    decide +kernel
  have hcycles : 0 < PacingConfig.standard.sliceCycles := by decide +kernel
  have hroom : (Machine.initial.performAll Machine.watchedRead).RoomFor .standard := by
    decide +kernel
  generalize Machine.initial.performAll Machine.watchedRead = m at hhalt hroom ⊢
  have hend := Machine.haltedAt_runSlice hcycles hroom hhalt 0 ⟨0, 0⟩
  have hstep := Step.slice m ⟨.standard, 0⟩ ⟨true, false⟩ ⟨0, 0⟩
  rw [hend] at hstep
  exact ⟨_, _, .cons (.setRunning _ true) (.cons (.act ⟨0, 0⟩ rfl) (.cons (.act ⟨0, 0⟩ rfl)
    (.cons hstep (.nil _))))⟩

/-- A request that comes once the loop has paused the machine is not lost: in the next
round it runs a slice. -/
theorem resume_lost_iff_afterPause :
    ∃ l, Interleaved (start (Machine.initial.performAll Machine.watchedRead) .standard)
        ((untilHalted ++ [.paused 0x20]) ++ .other (.setRunning true) :: [.sawQuit false]) l ∧
      l.point = .checkRunning ∧ l.flags.running = true ∧
      ∀ event next, Step l event next → event.isOwn = true →
        event = .sawRunning true ∧ next.point = .runSlice := by
  obtain ⟨m, p, hhalted⟩ := exists_halted
  have hpaused : Interleaved ⟨m, p, ⟨true, false⟩, .pause 0x20⟩ [.paused 0x20]
      ⟨m.tell [.log (.pacingPaused 0x20)], p, ⟨false, false⟩, .checkQuit⟩ :=
    .cons (.act ⟨0, 0⟩ rfl) (.nil _)
  have hall := (hhalted.append hpaused).append
    (.cons (.setRunning _ true) (.cons (.act ⟨0, 0⟩ rfl) (.nil _)))
  have hnone : ¬ PacingEvent.HaltPending (untilHalted ++ [.paused 0x20]) := by
    rintro ⟨address, hpending⟩
    rw [PacingEvent.haltPendingAt_append rfl] at hpending
    cases hpending
  obtain ⟨hlost, -, hgranted⟩ := resume_lost_iff hall rfl (by simp [PacingEvent.verdict?])
  exact ⟨_, hall, rfl, eq_true_of_ne_false (mt hlost.mp hnone), hgranted hnone⟩

/-- A request that comes between the halted slice and the pause is lost: the loop is
about to look whether the machine is to run, no thread has said otherwise since, no
breakpoint has halted it since, and still it is not to run. -/
theorem resume_lost :
    ∃ l, Interleaved (start (Machine.initial.performAll Machine.watchedRead) .standard)
        (untilHalted ++ .other (.setRunning true) :: [.paused 0x20, .sawQuit false]) l ∧
      l.point = .checkRunning ∧
      (∀ event ∈ [PacingEvent.paused 0x20, .sawQuit false], event.verdict? = none) ∧
      l.flags.running = false := by
  obtain ⟨m, p, hhalted⟩ := exists_halted
  exact ⟨_, hhalted.append (.cons (.setRunning _ true) (.cons (.act ⟨0, 0⟩ rfl)
    (.cons (.act ⟨0, 0⟩ rfl) (.nil _)))), rfl, by simp [PacingEvent.verdict?], rfl⟩

end PacingLoop

end M68HC11
