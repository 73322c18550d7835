import M68HC11.Pacing.Pacer

/-!
The pacing of a machine on a thread of its own.

Two flags are shared with other threads: whether the machine is to run, and
whether the pacing is to end. The loop looks at one flag at a time, and the
others may change them in between, so the loop is a sequence of actions
(`Loop.act`) between which other threads take theirs (`Loop.setRunning`,
`Loop.askToQuit`).

* A round looks at the flag to end, then at the flag to run, and then runs a
  slice. While the machine is not to run, the round forgets the lag and ends.
* A slice that a breakpoint has halted is followed by an action that clears
  the flag to run.
-/

namespace M68HC11

/-- The flags shared with a pacing loop. -/
structure PacingFlags where
  running : Bool
  quit : Bool
  deriving DecidableEq, Repr

namespace PacingFlags

/-- Neither running nor about to end. -/
def idle : PacingFlags := ⟨false, false⟩

instance : Inhabited PacingFlags := ⟨idle⟩

/-- Starts or pauses the machine, from the next slice on. -/
def setRunning (c : PacingFlags) (running : Bool) : PacingFlags := { c with running }

/-- Asks the loop to end. -/
def askToQuit (c : PacingFlags) : PacingFlags := { c with quit := true }

end PacingFlags

/-- What a pacing loop is about to do. -/
inductive LoopPoint
  /-- To look whether it is to end. -/
  | checkQuit
  /-- To look whether the machine is to run. -/
  | checkRunning
  /-- To run a slice. -/
  | runSlice
  /-- To pause after a halt at the address. -/
  | pause (address : UInt16)
  /-- Nothing; it has ended. -/
  | ended
  deriving DecidableEq, Repr

/-- A pacing loop with the machine it runs and the flags it shares. -/
structure PacingLoop where
  machine : Machine
  pacer : Pacer
  flags : PacingFlags
  point : LoopPoint

namespace PacingLoop

/-- A loop that begins, with the machine paused. -/
def start (machine : Machine) (config : PacingConfig) : PacingLoop :=
  ⟨machine, .ofConfig config, .idle, .checkQuit⟩

/-- The next action of the loop; `elapsed` is the time that a slice takes if
the action is to run one. -/
def act (l : PacingLoop) (elapsed : Duration) : PacingLoop :=
  match l with
  | ⟨machine, pacer, flags, point⟩ =>
    match point with
    | .checkQuit => ⟨machine, pacer, flags, if flags.quit then .ended else .checkRunning⟩
    | .checkRunning =>
      if flags.running then ⟨machine, pacer, flags, .runSlice⟩
      else ⟨machine, pacer.forgetLag, flags, .checkQuit⟩
    | .runSlice =>
      let slice := pacer.runSlice machine elapsed
      ⟨slice.machine, slice.pacer, flags,
        match slice.ending with
        | .halted address => .pause address
        | _ => .checkQuit⟩
    | .pause address =>
      ⟨machine.tell [.log (.pacingPaused address)], pacer, flags.setRunning false, .checkQuit⟩
    | .ended => ⟨machine, pacer, flags, .ended⟩

/-- Where a loop that is about to run a slice is afterwards. -/
theorem act_of_runSlice {l : PacingLoop} (h : l.point = .runSlice) (elapsed : Duration) :
    l.act elapsed =
      ⟨(l.pacer.runSlice l.machine elapsed).machine, (l.pacer.runSlice l.machine elapsed).pacer,
        l.flags, (l.pacer.runSlice l.machine elapsed).ending.haltedAt.elim .checkQuit .pause⟩ := by
  obtain ⟨machine, pacer, flags, point⟩ := l
  cases h
  rw [act]
  cases (pacer.runSlice machine elapsed).ending <;> rfl

/-- Another thread starts or pauses the machine. -/
def setRunning (l : PacingLoop) (running : Bool) : PacingLoop :=
  { l with flags := l.flags.setRunning running }

/-- Another thread asks the loop to end. -/
def askToQuit (l : PacingLoop) : PacingLoop := { l with flags := l.flags.askToQuit }

/-- Lets the loop act, at most so many times, until the machine is paused.
Slices are taken to need no time. -/
def actUntilPaused : Nat → PacingLoop → PacingLoop
  | 0, l => l
  | limit + 1, l => if l.flags.running then actUntilPaused limit (l.act ⟨0, 0⟩) else l

/-- Pauses the machine, asks the loop to end and lets it act until it has, at
most so many times. -/
def finish (limit : Nat) (l : PacingLoop) : PacingLoop :=
  go limit (l.setRunning false).askToQuit
where
  /-- Lets the loop act until it has ended. -/
  go : Nat → PacingLoop → PacingLoop
    | 0, l => l
    | limit + 1, l => if l.point = .ended then l else go limit (l.act ⟨0, 0⟩)

end PacingLoop

end M68HC11
