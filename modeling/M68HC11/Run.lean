import M68HC11.Machine

/-!
Runs: steps of a machine until its cycle counter reaches a target or a
breakpoint halts it.

Every instruction takes at least two cycles, so a run whose counter does not
wrap around reaches its target within half as many steps as there are cycles
left. `stepLimit` allows for every such run, and a run that it cuts off would
have gone around the counter.
-/

namespace M68HC11

/-- How a run ended. -/
inductive RunEnding
  /-- The cycle counter has reached the target. -/
  | reached
  /-- A breakpoint has halted the machine. -/
  | halted (address : UInt16)
  /-- The run was cut off. -/
  | cutOff
  deriving DecidableEq, Repr

/-- Where a breakpoint has ended the run, if one has. -/
def RunEnding.haltedAt : RunEnding → Option UInt16
  | halted address => some address
  | _ => none

/-- What a run leads to. -/
structure RunOutcome where
  machine : Machine
  /-- How many instructions were executed. -/
  steps : Nat
  ending : RunEnding

namespace Machine

/-- Executes instructions until the cycle counter reaches the target, a
breakpoint halts the machine or the given number of steps is used up; `steps`
instructions have been executed before. -/
def runWithin (target : UInt64) : Nat → Nat → Machine → RunOutcome
  | 0, steps, m => ⟨m, steps, if m.cycles < target then .cutOff else .reached⟩
  | limit + 1, steps, m =>
    if m.cycles < target then
      match m.step with
      | (m, .breakpointHit address _) => ⟨m, steps + 1, .halted address⟩
      | (m, _) => runWithin target limit (steps + 1) m
    else ⟨m, steps, .reached⟩

/-- More steps than the counter can count cycles for, at two cycles a
step. -/
def stepLimit : Nat := UInt64.size / 2

/-- Executes instructions until the cycle counter reaches the target or a
breakpoint halts the machine. -/
def runUntil (m : Machine) (target : UInt64) : RunOutcome := runWithin target stepLimit 0 m

/-- Executes a number of instructions, whatever comes of them. -/
def stepTimes : Nat → Machine → Machine
  | 0, m => m
  | n + 1, m => stepTimes n m.step.1

/-- A limited run makes one step at a time. -/
theorem runWithin_succ (target : UInt64) (limit steps : Nat) (m : Machine) :
    runWithin target (limit + 1) steps m =
      if m.cycles < target then
        match m.step.2.breakpoint? with
        | some address => ⟨m.step.1, steps + 1, .halted address⟩
        | none => runWithin target limit (steps + 1) m.step.1
      else ⟨m, steps, .reached⟩ := by
  rw [runWithin]
  obtain ⟨m', outcome⟩ := m.step
  cases outcome <;> rfl

/-- A machine whose counter has reached the target does not run. -/
theorem runUntil_of_le {m : Machine} {target : UInt64} (h : ¬m.cycles < target) :
    m.runUntil target = ⟨m, 0, .reached⟩ := by
  rw [runUntil, show stepLimit = (UInt64.size / 2 - 1) + 1 from rfl, runWithin, if_neg h]

end Machine

end M68HC11
