import M68HC11.Pacing.Loop
import M68HC11.Proofs.Halting
import M68HC11.Proofs.Slices

/-!
A pacing loop among other threads.

The loop and the others act one at a time, in any order. An event says what an
action saw or did (`PacingEvent`), and `PacingLoop.Interleaved` are the orders in
which events can follow one another.

* `PacingLoop.Step.inversion`: all that an event can do to the loop, its flags and
  its machine;
* `PacingLoop.Interleaved.invariant`: what no event breaks holds of what has
  happened and where the loop is;
* `PacingEvent.Admitted`: the loop has looked at both flags in this round and was
  let through, which is so exactly when it is about to run a slice
  (`PacingLoop.InRound`);
* `PacingLoop.interleavings_safe` (**nothing surprises a paced machine**): the
  slices, the requests to end, the halts and the lag in every interleaving.
-/

namespace M68HC11

/-! ### Events -/

/-- What another thread does. -/
inductive ThreadAction
  /-- It starts or pauses the machine. -/
  | setRunning (running : Bool)
  /-- It asks the loop to end. -/
  | askToQuit
  /-- It has the machine for itself. -/
  | useMachine
  deriving DecidableEq, Repr

/-- The flags after an action of another thread. -/
def ThreadAction.on (flags : PacingFlags) : ThreadAction → PacingFlags
  | setRunning running => flags.setRunning running
  | askToQuit => flags.askToQuit
  | useMachine => flags

/-- What happens while a machine is paced. -/
inductive PacingEvent
  /-- The loop has looked whether it is to end. -/
  | sawQuit (quit : Bool)
  /-- The loop has looked whether the machine is to run. -/
  | sawRunning (running : Bool)
  /-- The loop has run a slice, which was halted at the address or came to its
  end. -/
  | ranSlice (halt : Option UInt16)
  /-- The loop has paused the machine after a halt at the address. -/
  | paused (address : UInt16)
  /-- Another thread has acted. -/
  | other (action : ThreadAction)
  deriving DecidableEq, Repr

namespace PacingEvent

/-- Whether an event is an action of the loop. -/
def isOwn : PacingEvent → Bool
  | other _ => false
  | _ => true

/-- Whether a slice was run. -/
def isSlice : PacingEvent → Bool
  | ranSlice _ => true
  | _ => false

/-- What the loop logs with an action, besides what a slice tells. -/
def notices : PacingEvent → List Notice
  | paused address => [.log (.pacingPaused address)]
  | _ => []

/-- The actions of the loop among the events. -/
def own (events : List PacingEvent) : List PacingEvent := events.filter isOwn

/-- What other threads do is no action of the loop. -/
lemma own_append_other (events : List PacingEvent) (action : ThreadAction) :
    own (events ++ [.other action]) = own events := by
  simp [own, isOwn]

/-- What the loop does is the last of its actions. -/
lemma own_append {event : PacingEvent} (h : event.isOwn = true) (events : List PacingEvent) :
    own (events ++ [event]) = own events ++ [event] := by
  simp [own, h]

lemma getLast?_own_append {event : PacingEvent} (h : event.isOwn = true)
    (events : List PacingEvent) : (own (events ++ [event])).getLast? = some event := by
  rw [own_append h, List.getLast?_concat]

/-- The last the loop did was to look whether it is to end, and then whether the
machine is to run; it is not to end, and the machine is to run. -/
def Admitted (events : List PacingEvent) : Prop :=
  [sawQuit false, sawRunning true] <:+ own events

instance (events : List PacingEvent) : Decidable (Admitted events) :=
  inferInstanceAs (Decidable (_ <:+ _))

end PacingEvent

namespace PacingLoop

variable {l l' l'' : PacingLoop} {event : PacingEvent} {events front back : List PacingEvent}

/-- What the next action of a loop is, if it has not ended. -/
def nextEvent? (l : PacingLoop) (elapsed : Duration) : Option PacingEvent :=
  match l.point with
  | .checkQuit => some (.sawQuit l.flags.quit)
  | .checkRunning => some (.sawRunning l.flags.running)
  | .runSlice => some (.ranSlice (l.pacer.runSlice l.machine elapsed).ending.haltedAt)
  | .pause address => some (.paused address)
  | .ended => none

/-- One event, of the loop or of another thread. -/
inductive Step : PacingLoop → PacingEvent → PacingLoop → Prop
  /-- The loop acts. -/
  | act {l : PacingLoop} {event : PacingEvent} (elapsed : Duration)
      (hevent : l.nextEvent? elapsed = some event) : Step l event (l.act elapsed)
  /-- Another thread starts or pauses the machine. -/
  | setRunning (l : PacingLoop) (running : Bool) :
      Step l (.other (.setRunning running)) (l.setRunning running)
  /-- Another thread asks the loop to end. -/
  | askToQuit (l : PacingLoop) : Step l (.other .askToQuit) l.askToQuit
  /-- Another thread has the machine for itself and does something with it. -/
  | useMachine (l : PacingLoop) (use : Machine → Machine) :
      Step l (.other .useMachine) { l with machine := use l.machine }

/-- The events that happen one after the other, and where they lead. -/
inductive Interleaved : PacingLoop → List PacingEvent → PacingLoop → Prop
  /-- Nothing has happened yet. -/
  | nil (l : PacingLoop) : Interleaved l [] l
  /-- An event and those that follow it. -/
  | cons {l l' l'' : PacingLoop} {event : PacingEvent} {events : List PacingEvent}
      (first : Step l event l') (rest : Interleaved l' events l'') :
      Interleaved l (event :: events) l''

/-! ### What an event does -/

/-- What an event tells of the loop before it, and of what comes of it. -/
def Does (l : PacingLoop) (event : PacingEvent) (l' : PacingLoop) : Prop :=
  match event with
  | .sawQuit quit =>
      l.point = .checkQuit ∧ l.flags.quit = quit ∧
        l' = { l with point := if quit then .ended else .checkRunning }
  | .sawRunning true =>
      l.point = .checkRunning ∧ l.flags.running = true ∧ l' = { l with point := .runSlice }
  | .sawRunning false =>
      l.point = .checkRunning ∧ l.flags.running = false ∧
        l' = { l with pacer := l.pacer.forgetLag, point := .checkQuit }
  | .ranSlice halt =>
      l.point = .runSlice ∧ ∃ elapsed, (l.pacer.runSlice l.machine elapsed).ending.haltedAt = halt ∧
        l' = ⟨(l.pacer.runSlice l.machine elapsed).machine,
          (l.pacer.runSlice l.machine elapsed).pacer, l.flags, halt.elim .checkQuit .pause⟩
  | .paused address =>
      l.point = .pause address ∧
        l' = ⟨l.machine.tell [.log (.pacingPaused address)], l.pacer, l.flags.setRunning false,
          .checkQuit⟩
  | .other action =>
      l'.point = l.point ∧ l'.pacer = l.pacer ∧ l'.flags = action.on l.flags

/-- Running a slice is an event. -/
lemma Step.slice (m : Machine) (p : Pacer) (flags : PacingFlags) (elapsed : Duration) :
    Step ⟨m, p, flags, .runSlice⟩ (.ranSlice (p.runSlice m elapsed).ending.haltedAt)
      ⟨(p.runSlice m elapsed).machine, (p.runSlice m elapsed).pacer, flags,
        (p.runSlice m elapsed).ending.haltedAt.elim .checkQuit .pause⟩ :=
  act_of_runSlice (l := ⟨m, p, flags, .runSlice⟩) rfl elapsed ▸ .act elapsed rfl

/-- **All that an event can do.** -/
lemma Step.inversion (h : Step l event l') : Does l event l' := by
  cases h with
  | setRunning running => exact ⟨rfl, rfl, rfl⟩
  | askToQuit => exact ⟨rfl, rfl, rfl⟩
  | useMachine use => exact ⟨rfl, rfl, rfl⟩
  | act elapsed hevent =>
      obtain ⟨machine, pacer, ⟨running, quit⟩, point⟩ := l
      cases point with
      | ended => cases hevent
      | checkQuit =>
          obtain rfl := Option.some.inj hevent
          exact ⟨rfl, rfl, rfl⟩
      | checkRunning =>
          obtain rfl := Option.some.inj hevent
          cases running <;> exact ⟨rfl, rfl, rfl⟩
      | runSlice =>
          obtain rfl := Option.some.inj hevent
          exact ⟨rfl, elapsed, rfl, act_of_runSlice rfl elapsed⟩
      | pause address =>
          obtain rfl := Option.some.inj hevent
          exact ⟨rfl, rfl⟩

/-- An action that is no slice tells the machine what is logged. -/
lemma Step.machine_eq (h : Step l event l') (hown : event.isOwn = true)
    (hslice : event.isSlice = false) : l'.machine = l.machine.tell event.notices := by
  have htell : l.machine = l.machine.tell [] := by simp [Machine.tell]
  have hdoes := h.inversion
  cases event with
  | sawQuit quit =>
      obtain ⟨-, -, rfl⟩ := hdoes
      exact htell
  | sawRunning running =>
      cases running <;> obtain ⟨-, -, rfl⟩ := hdoes <;> exact htell
  | paused address =>
      obtain ⟨-, rfl⟩ := hdoes
      exact rfl
  | ranSlice halt => cases hslice
  | other action => cases hown

/-! ### Interleavings in parts -/

namespace Interleaved

/-- Interleavings one after the other. -/
lemma append (h : Interleaved l front l') (h' : Interleaved l' back l'') :
    Interleaved l (front ++ back) l'' := by
  induction h with
  | nil => exact h'
  | cons first _ ih => exact .cons first (ih h')

/-- An interleaving in two parts has a state between them. -/
lemma exists_of_append (h : Interleaved l (front ++ back) l'') :
    ∃ l', Interleaved l front l' ∧ Interleaved l' back l'' := by
  induction front generalizing l with
  | nil => exact ⟨l, .nil l, h⟩
  | cons event front ih =>
      cases h with
      | cons first rest =>
          obtain ⟨l', hfront, hback⟩ := ih rest
          exact ⟨l', .cons first hfront, hback⟩

/-- What holds at the beginning and what no event breaks holds of what has
happened and where the loop is. -/
lemma invariant {P : List PacingEvent → PacingLoop → Prop} (hstart : P [] l)
    (hstep : ∀ {events l event l'}, P events l → Step l event l' → P (events ++ [event]) l')
    (h : Interleaved l events l') : P events l' := by
  have hbehind : ∀ front, P front l → P (front ++ events) l' := by
    clear hstart
    induction h with
    | nil =>
        intro front hfront
        rwa [List.append_nil]
    | cons first _ ih =>
        intro front hfront
        have hrest := ih _ (hstep hfront first)
        rwa [List.append_assoc] at hrest
  exact hbehind [] hstart

end Interleaved

/-! ### Rounds -/

/-- How the place of the loop in its round goes with what it has done. -/
structure InRound (events : List PacingEvent) (l : PacingLoop) : Prop where
  asked : l.point = .checkRunning → (PacingEvent.own events).getLast? = some (.sawQuit false)
  admitted : l.point = .runSlice → PacingEvent.Admitted events
  running : (PacingEvent.own events).getLast? = some (.sawRunning true) → l.point = .runSlice

namespace InRound

/-- What other threads do changes nothing in it. -/
lemma other (h : InRound events l) (action : ThreadAction) (hpoint : l'.point = l.point) :
    InRound (events ++ [.other action]) l' := by
  have hsame := PacingEvent.own_append_other events action
  refine ⟨fun hl => ?_, fun hl => ?_, fun hlast => ?_⟩
  · rw [hsame]
    exact h.asked (hpoint.symm.trans hl)
  · rw [PacingEvent.Admitted, hsame]
    exact h.admitted (hpoint.symm.trans hl)
  · rw [hsame] at hlast
    exact hpoint.trans (h.running hlast)

/-- An action by which the loop does not go on in its round. -/
lemma leave (hown : event.isOwn = true) (hevent : event ≠ .sawRunning true)
    (hasked : l.point ≠ .checkRunning) (hadmitted : l.point ≠ .runSlice) :
    InRound (events ++ [event]) l := by
  refine ⟨fun hl => absurd hl hasked, fun hl => absurd hl hadmitted, fun hlast => ?_⟩
  rw [PacingEvent.getLast?_own_append hown] at hlast
  exact absurd (Option.some.inj hlast) hevent

/-- The place in the round and what was done go on together. -/
lemma step (h : InRound events l) (hstep : Step l event l') : InRound (events ++ [event]) l' := by
  have hdoes := hstep.inversion
  cases event with
  | other action => exact h.other action hdoes.1
  | sawQuit quit =>
      obtain ⟨-, -, rfl⟩ := hdoes
      cases quit with
      | true => exact leave rfl PacingEvent.noConfusion LoopPoint.noConfusion LoopPoint.noConfusion
      | false =>
          have hlast := PacingEvent.getLast?_own_append (rfl : (PacingEvent.sawQuit false).isOwn = _)
            events
          refine ⟨fun _ => hlast, LoopPoint.noConfusion, fun hrunning => ?_⟩
          cases hlast.symm.trans hrunning
  | sawRunning running =>
      cases running with
      | false =>
          obtain ⟨-, -, rfl⟩ := hdoes
          exact leave rfl (by decide) LoopPoint.noConfusion LoopPoint.noConfusion
      | true =>
          obtain ⟨hpoint, -, rfl⟩ := hdoes
          refine ⟨LoopPoint.noConfusion, fun _ => ?_, fun _ => rfl⟩
          -- the action before this one was to look at the other flag
          obtain ⟨before, hbefore⟩ := List.getLast?_eq_some_iff.mp (h.asked hpoint)
          refine ⟨before, ?_⟩
          rw [PacingEvent.own_append rfl, hbefore, List.append_assoc]
          rfl
  | ranSlice halt =>
      obtain ⟨-, elapsed, -, rfl⟩ := hdoes
      cases halt <;>
        exact leave rfl PacingEvent.noConfusion LoopPoint.noConfusion LoopPoint.noConfusion
  | paused address =>
      obtain ⟨-, rfl⟩ := hdoes
      exact leave rfl PacingEvent.noConfusion LoopPoint.noConfusion LoopPoint.noConfusion

end InRound

/-- Every loop is in its round. -/
lemma inRound_of_interleaved {m : Machine} {config : PacingConfig}
    (h : Interleaved (start m config) events l) : InRound events l :=
  h.invariant ⟨LoopPoint.noConfusion, LoopPoint.noConfusion, nofun⟩ InRound.step

/-- The loop is about to run a slice exactly if both flags have let it through. -/
lemma InRound.runSlice_iff (h : InRound events l) :
    l.point = .runSlice ↔ PacingEvent.Admitted events := by
  refine ⟨h.admitted, ?_⟩
  rintro ⟨before, hown⟩
  apply h.running
  rw [← hown]
  simp

/-! ### Requests to end -/

/-- How many slices a loop that is to end runs at most. -/
def slicesLeft : LoopPoint → ℕ
  | .checkRunning | .runSlice => 1
  | .checkQuit | .pause _ | .ended => 0

/-- How often a loop that is to end acts at most. -/
def actionsLeft : LoopPoint → ℕ
  | .checkRunning => 4
  | .runSlice => 3
  | .pause _ => 2
  | .checkQuit => 1
  | .ended => 0

lemma slicesLeft_le (point : LoopPoint) : slicesLeft point ≤ 1 := by
  cases point <;> simp [slicesLeft]

lemma actionsLeft_le (point : LoopPoint) : actionsLeft point ≤ 4 := by
  cases point <;> simp [actionsLeft]

/-- No other thread takes back a request to end. -/
lemma quit_on {flags : PacingFlags} (h : flags.quit = true) (action : ThreadAction) :
    (action.on flags).quit = true := by
  cases action with
  | setRunning running => exact h
  | askToQuit => rfl
  | useMachine => exact h

/-- The request to end is not forgotten, and each event uses up what is left. -/
lemma Step.left_of_quit (h : Step l event l') (hquit : l.flags.quit = true) :
    l'.flags.quit = true ∧
      event.isSlice.toNat + slicesLeft l'.point ≤ slicesLeft l.point ∧
      event.isOwn.toNat + actionsLeft l'.point ≤ actionsLeft l.point := by
  have hdoes := h.inversion
  cases event with
  | other action =>
      obtain ⟨hpoint, -, hflags⟩ := hdoes
      rw [hpoint, hflags]
      exact ⟨quit_on hquit action, by simp [PacingEvent.isSlice, PacingEvent.isOwn]⟩
  | sawQuit quit =>
      obtain ⟨hpoint, hflag, rfl⟩ := hdoes
      obtain rfl : quit = true := hflag.symm.trans hquit
      rw [hpoint]
      exact ⟨hquit, by simp [PacingEvent.isSlice, PacingEvent.isOwn, slicesLeft, actionsLeft]⟩
  | sawRunning running =>
      cases running <;> obtain ⟨hpoint, -, rfl⟩ := hdoes <;> rw [hpoint] <;>
        exact ⟨hquit, by simp [PacingEvent.isSlice, PacingEvent.isOwn, slicesLeft, actionsLeft]⟩
  | ranSlice halt =>
      obtain ⟨hpoint, elapsed, -, rfl⟩ := hdoes
      rw [hpoint]
      cases halt <;>
        exact ⟨hquit, by simp [PacingEvent.isSlice, PacingEvent.isOwn, slicesLeft, actionsLeft]⟩
  | paused address =>
      obtain ⟨hpoint, rfl⟩ := hdoes
      rw [hpoint]
      exact ⟨hquit, by simp [PacingEvent.isSlice, PacingEvent.isOwn, slicesLeft, actionsLeft]⟩

/-- A loop that is to end runs no more slices and acts no more often than that. -/
lemma Interleaved.count_of_quit (h : Interleaved l events l') (hquit : l.flags.quit = true) :
    events.countP PacingEvent.isSlice ≤ slicesLeft l.point ∧
      events.countP PacingEvent.isOwn ≤ actionsLeft l.point := by
  induction h with
  | nil => exact ⟨Nat.zero_le _, Nat.zero_le _⟩
  | @cons _ _ _ event _ first _ ih =>
      obtain ⟨hstill, hslices, hactions⟩ := first.left_of_quit hquit
      obtain ⟨hlater, hlater'⟩ := ih hstill
      rw [List.countP_cons, List.countP_cons]
      cases hslice : event.isSlice <;> cases hown : event.isOwn <;>
        simp only [hslice, hown, Bool.toNat_true, Bool.toNat_false] at hslices hactions <;>
        simp <;> omega

/-! ### Halts -/

/-- A loop whose machine is paused, and which is not about to run a slice. -/
structure Quiet (l : PacingLoop) : Prop where
  paused : l.flags.running = false
  point : l.point ≠ .runSlice

/-- It stays so until another thread starts the machine. -/
lemma Quiet.step (h : Quiet l) (hstep : Step l event l')
    (hevent : event ≠ .other (.setRunning true)) : Quiet l' := by
  have hdoes := hstep.inversion
  cases event with
  | other action =>
      obtain ⟨hpoint, -, hflags⟩ := hdoes
      refine ⟨?_, hpoint ▸ h.point⟩
      rw [hflags]
      cases action with
      | setRunning running => simpa [ThreadAction.on, PacingFlags.setRunning] using hevent
      | askToQuit => exact h.paused
      | useMachine => exact h.paused
  | sawQuit quit =>
      obtain ⟨-, -, rfl⟩ := hdoes
      refine ⟨h.paused, ?_⟩
      cases quit <;> exact LoopPoint.noConfusion
  | sawRunning running =>
      cases running with
      | true =>
          obtain ⟨-, hrunning, -⟩ := hdoes
          exact absurd (h.paused.symm.trans hrunning) (by decide)
      | false =>
          obtain ⟨-, -, rfl⟩ := hdoes
          exact ⟨h.paused, LoopPoint.noConfusion⟩
  | ranSlice halt => exact absurd hdoes.1 h.point
  | paused address =>
      obtain ⟨-, rfl⟩ := hdoes
      exact ⟨rfl, LoopPoint.noConfusion⟩

/-- From there it runs a slice only if another thread has started the machine. -/
lemma Quiet.mem_of_slice (h : Quiet l) {halt : Option UInt16}
    (hrun : Interleaved l (front ++ .ranSlice halt :: back) l') :
    .other (.setRunning true) ∈ front := by
  induction front generalizing l with
  | nil =>
      cases hrun with
      | cons first _ => exact absurd first.inversion.1 h.point
  | cons event front ih =>
      cases hrun with
      | cons first rest =>
          by_cases hevent : event = .other (.setRunning true)
          · exact hevent ▸ List.mem_cons_self
          · exact List.mem_cons_of_mem _ (ih (h.step first hevent) rest)

/-- A loop that is about to pause runs a slice only once it has paused the machine
and another thread has started it again. -/
lemma Interleaved.paused_of_slice {address : UInt16} {halt : Option UInt16}
    (h : Interleaved l (front ++ .ranSlice halt :: back) l') (hpoint : l.point = .pause address) :
    ∃ before behind, front = before ++ .paused address :: behind ∧
      .other (.setRunning true) ∈ behind := by
  induction front generalizing l with
  | nil =>
      cases h with
      | cons first _ => cases hpoint.symm.trans first.inversion.1
  | cons event front ih =>
      cases h with
      | cons first rest =>
          have hdoes := first.inversion
          cases event with
          | other action =>
              obtain ⟨before, behind, rfl, hmem⟩ := ih rest (hdoes.1.trans hpoint)
              exact ⟨.other action :: before, behind, rfl, hmem⟩
          | paused other =>
              obtain ⟨hother, rfl⟩ := hdoes
              obtain rfl := LoopPoint.pause.inj (hpoint.symm.trans hother)
              exact ⟨[], front, rfl, Quiet.mem_of_slice ⟨rfl, LoopPoint.noConfusion⟩ rest⟩
          | sawQuit quit => cases hpoint.symm.trans hdoes.1
          | sawRunning running => cases running <;> cases hpoint.symm.trans hdoes.1
          | ranSlice halt => cases hpoint.symm.trans hdoes.1

/-! ### The lag -/

/-- A loop without a lag, which is not about to run a slice. -/
structure Rested (l : PacingLoop) : Prop where
  lag : l.pacer.lag = 0
  point : l.point ≠ .runSlice

/-- It stays so until it has seen that the machine is to run. -/
lemma Rested.step (h : Rested l) (hstep : Step l event l') (hevent : event ≠ .sawRunning true) :
    Rested l' := by
  have hdoes := hstep.inversion
  cases event with
  | other action =>
      obtain ⟨hpoint, hpacer, -⟩ := hdoes
      exact ⟨hpacer ▸ h.lag, hpoint ▸ h.point⟩
  | sawQuit quit =>
      obtain ⟨-, -, rfl⟩ := hdoes
      refine ⟨h.lag, ?_⟩
      cases quit <;> exact LoopPoint.noConfusion
  | sawRunning running =>
      cases running with
      | true => exact absurd rfl hevent
      | false =>
          obtain ⟨-, -, rfl⟩ := hdoes
          exact ⟨rfl, LoopPoint.noConfusion⟩
  | ranSlice halt => exact absurd hdoes.1 h.point
  | paused address =>
      obtain ⟨-, rfl⟩ := hdoes
      exact ⟨h.lag, LoopPoint.noConfusion⟩

lemma Interleaved.rested (h : Interleaved l events l') (hrested : Rested l)
    (hevents : .sawRunning true ∉ events) : Rested l' := by
  induction h with
  | nil => exact hrested
  | cons first _ ih =>
      rw [List.mem_cons, not_or] at hevents
      exact ih (hrested.step first (Ne.symm hevents.1)) hevents.2

/-! ### Every interleaving -/

/-- **Nothing surprises a paced machine.** In every interleaving of a loop with
other threads, an action of the loop that is no slice changes nothing of the machine
but what is logged, and a slice is run as a whole. The loop is about to run one
exactly if its last two actions were to look at the flags and both let it through.
Once it is asked to end, it runs at most one slice more and acts at most four times.
After a slice that was halted it runs another one only if a thread has started the
machine since the loop paused it. And from when it sees that the machine is not to
run until it sees that it is, it has no lag. -/
theorem interleavings_safe {m : Machine} {config : PacingConfig}
    (h : Interleaved (start m config) events l) :
    (∀ event next, Step l event next → event.isOwn = true → event.isSlice = false →
      next.machine = l.machine.tell event.notices) ∧
      (∀ halt next, Step l (.ranSlice halt) next → PacingEvent.Admitted events ∧
        ∃ elapsed, (l.pacer.runSlice l.machine elapsed).ending.haltedAt = halt ∧
          next.machine = (l.pacer.runSlice l.machine elapsed).machine) ∧
      (l.point = .runSlice ↔ PacingEvent.Admitted events) ∧
      (∀ front back, events = front ++ .other .askToQuit :: back →
        back.countP PacingEvent.isSlice ≤ 1 ∧ back.countP PacingEvent.isOwn ≤ 4) ∧
      (∀ front between back address halt,
        events = front ++ .ranSlice (some address) :: (between ++ .ranSlice halt :: back) →
          ∃ before behind, between = before ++ .paused address :: behind ∧
            .other (.setRunning true) ∈ behind) ∧
      ∀ front back, events = front ++ .sawRunning false :: back → .sawRunning true ∉ back →
        l.pacer.lag = 0 := by
  have hround := inRound_of_interleaved h
  refine ⟨?_, ?_, hround.runSlice_iff, ?_, ?_, ?_⟩
  · intro event next hstep hown hslice
    exact hstep.machine_eq hown hslice
  · intro halt next hstep
    obtain ⟨hpoint, elapsed, hhalt, rfl⟩ := hstep.inversion
    exact ⟨hround.admitted hpoint, elapsed, hhalt, rfl⟩
  · rintro front back rfl
    obtain ⟨before, -, hrest⟩ := h.exists_of_append
    cases hrest with
    | cons first rest =>
        obtain ⟨-, -, hflags⟩ := first.inversion
        obtain ⟨hslices, hactions⟩ := rest.count_of_quit (by rw [hflags]; rfl)
        exact ⟨Nat.le_trans hslices (slicesLeft_le _), Nat.le_trans hactions (actionsLeft_le _)⟩
  · rintro front between back address halt rfl
    obtain ⟨before, -, hrest⟩ := h.exists_of_append
    cases hrest with
    | cons first rest =>
        obtain ⟨-, elapsed, -, rfl⟩ := first.inversion
        exact rest.paused_of_slice rfl
  · rintro front back rfl hback
    obtain ⟨before, -, hrest⟩ := h.exists_of_append
    cases hrest with
    | cons first rest =>
        obtain ⟨-, -, rfl⟩ := first.inversion
        exact (rest.rested ⟨rfl, LoopPoint.noConfusion⟩ hback).lag

/-- Until a breakpoint pauses a machine that another thread has started. -/
def untilPaused : List PacingEvent :=
  [.other (.setRunning true), .sawQuit false, .sawRunning true, .ranSlice (some 0x20),
    .paused 0x20]

/-- From then until the loop, started again, is asked to end while it is about to run
another slice. -/
def untilAsked : List PacingEvent :=
  [.sawQuit false, .sawRunning false, .other (.setRunning true), .sawQuit false,
    .sawRunning true, .other .askToQuit]

/-- A loop is paused by a breakpoint and started again, and still runs one slice
after it was asked to end. -/
theorem interleavings_safe_resumed :
    ∃ halt l, Interleaved (start (Machine.initial.performAll Machine.watchedRead) .standard)
        (untilPaused ++ (untilAsked ++ [.ranSlice halt])) l ∧
      (∃ before behind, .paused 0x20 :: untilAsked = before ++ .paused 0x20 :: behind ∧
        .other (.setRunning true) ∈ behind) ∧
      [PacingEvent.ranSlice halt].countP PacingEvent.isSlice ≤ 1 := by
  have hhalt : (Machine.initial.performAll Machine.watchedRead).step.2.breakpoint? = some 0x20 := by
    decide +kernel
  have hcycles : 0 < PacingConfig.standard.sliceCycles := by decide +kernel
  have hroom : (Machine.initial.performAll Machine.watchedRead).RoomFor .standard := by
    decide +kernel
  generalize Machine.initial.performAll Machine.watchedRead = m at hhalt hroom ⊢
  have hend := Machine.haltedAt_runSlice hcycles hroom hhalt 0 ⟨0, 0⟩
  have hstep := Step.slice m ⟨.standard, 0⟩ ⟨true, false⟩ ⟨0, 0⟩
  generalize Pacer.runSlice ⟨.standard, 0⟩ m ⟨0, 0⟩ = slice at hend hstep
  rw [hend] at hstep
  have hpaused : Interleaved (start m .standard) untilPaused
      ⟨slice.machine.tell [.log (.pacingPaused 0x20)], slice.pacer, ⟨false, false⟩, .checkQuit⟩ :=
    .cons (.setRunning _ true) (.cons (.act ⟨0, 0⟩ rfl) (.cons (.act ⟨0, 0⟩ rfl)
      (.cons hstep (.cons (.act ⟨0, 0⟩ rfl) (.nil _)))))
  generalize slice.machine.tell [.log (.pacingPaused 0x20)] = m' at hpaused
  have hasked : Interleaved ⟨m', slice.pacer, ⟨false, false⟩, .checkQuit⟩ untilAsked
      ⟨m', slice.pacer.forgetLag, ⟨true, true⟩, .runSlice⟩ :=
    .cons (.act ⟨0, 0⟩ rfl) (.cons (.act ⟨0, 0⟩ rfl) (.cons (.setRunning _ true)
      (.cons (.act ⟨0, 0⟩ rfl) (.cons (.act ⟨0, 0⟩ rfl) (.cons (.askToQuit _) (.nil _))))))
  have hall := hpaused.append (hasked.append (.cons (.act ⟨0, 0⟩ rfl) (.nil _)))
  obtain ⟨-, -, -, hquit, hresumed, -⟩ := interleavings_safe hall
  refine ⟨_, _, hall, ?_, ?_⟩
  · exact hresumed [.other (.setRunning true), .sawQuit false, .sawRunning true] _ [] _ _ rfl
  · exact (hquit (untilPaused ++ untilAsked.dropLast) _ rfl).1

end PacingLoop

end M68HC11
