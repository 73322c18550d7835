import M68HC11.Breakpoints
import M68HC11.Core
import M68HC11.Displays

/-!
The machine: a core with breakpoints, observers of its data, and displays.

Everything a machine tells the outside goes into its journal, from which it is
taken by `Machine.takeJournal`.

* `Machine.step` executes an instruction, delivers the hits of its accesses
  and polls the breakpoints;
* observers are known by handles, which are given out in ascending order from
  the one behind that of the breakpoints. Their numbers have 32 bits and wrap
  around.
-/

namespace M68HC11

/-- A machine. -/
structure Machine where
  core : Core
  breakpoints : Breakpoints
  /-- The observers of data, in the order of their handles. -/
  observers : List (Handle × String)
  /-- The number of the handle to be given out next. -/
  nextHandle : UInt32
  displays : Displays
  /-- What the outside has not been told yet. -/
  journal : Array Notice

/-- How a step of a machine ended. -/
inductive StepOutcome
  /-- The instruction was executed. -/
  | retired (cycles : Nat)
  /-- The opcode of the instruction is not assigned. -/
  | invalidOpcode (fault : Fault) (cycles : Nat)
  /-- The machine has halted at a breakpoint. -/
  | breakpointHit (address : UInt16) (cycles : Nat)
  deriving DecidableEq, Repr

namespace StepOutcome

/-- The cycles that the step took. -/
def cycles : StepOutcome → Nat
  | retired cycles | invalidOpcode _ cycles | breakpointHit _ cycles => cycles

/-- Where the machine has halted, if it has. -/
def breakpoint? : StepOutcome → Option UInt16
  | breakpointHit address _ => some address
  | _ => none

/-- The outcome of a step, given where the machine has halted after the
instruction. -/
def ofRetirement (retirement : Retirement) : Option UInt16 → StepOutcome
  | some address => breakpointHit address retirement.cycles
  | none => match retirement with
    | .retired cycles => retired cycles
    | .invalidOpcode fault cycles => invalidOpcode fault cycles

end StepOutcome

namespace Machine

/-- The handle of the breakpoints. -/
def breakpointHandle : Handle := ⟨0⟩

/-- A machine after a reset, with an empty memory and nothing attached. -/
def initial : Machine where
  core := .initial
  breakpoints := .ofOwner breakpointHandle
  observers := []
  nextHandle := breakpointHandle.number + 1
  displays := ∅
  journal := #[]

instance : Inhabited Machine := ⟨initial⟩

/-- The registers. -/
def registers (m : Machine) : Registers := m.core.registers

/-- The memory. -/
def memory (m : Machine) : Memory := m.core.memory

/-- The cycle counter. -/
def cycles (m : Machine) : UInt64 := m.registers.cycles

/-- Adds notices to the journal. -/
def tell (m : Machine) (notices : List Notice) : Machine :=
  { m with journal := m.journal ++ notices }

/-- The machine once its journal has been taken. -/
def takeJournal (m : Machine) : Machine := { m with journal := #[] }

/-! ### Execution -/

/-- The observer behind a handle. -/
def observer? (m : Machine) (handle : Handle) : Option String := m.observers.lookup handle

/-- The delivery of a hit to its observer. Nobody hears of a hit whose
observer is unknown, and the breakpoints hear of theirs by `hearHit`. -/
def hitNotice? (m : Machine) (hit : Hit) : Option Notice :=
  if hit.observer = breakpointHandle then none
  else (m.observer? hit.observer).map (.trapped · hit.kind hit.address hit.instruction)

/-- The delivery of a hit to the breakpoints, if it is theirs. -/
def hearHit (b : Breakpoints) (hit : Hit) : Breakpoints :=
  if hit.observer = breakpointHandle then b.hear hit.kind hit.address hit.instruction else b

/-- Delivers the hits that wait, in order. -/
def deliverHits (m : Machine) : Machine :=
  let hits := m.core.traps.hits
  if hits.isEmpty then m
  else
    let notices := hits.filterMap m.hitNotice?
    { m with
      core := { m.core with traps := m.core.traps.drain }
      breakpoints := hits.foldl hearHit m.breakpoints }.tell notices

/-- Forgets a halt and executes the instruction at the program counter, but
delivers no hits yet. -/
def executeOne (m : Machine) : Machine × Retirement :=
  match m with
  | ⟨core, breakpoints, observers, nextHandle, displays, journal⟩ =>
    let s := core.step
    (⟨s.core, breakpoints.resume, observers, nextHandle, displays,
        journal ++ faultNotices s.faults⟩,
      s.retirement)

/-- Polls the breakpoints after an instruction. -/
def poll (m : Machine) : Machine :=
  let pc := m.registers.pc
  let notices := m.breakpoints.pollNotices pc
  { m with breakpoints := m.breakpoints.poll pc }.tell notices

/-- Executes one instruction, delivers the hits of its accesses and polls the
breakpoints. -/
def step (m : Machine) : Machine × StepOutcome :=
  let (executed, retirement) := m.executeOne
  let delivered := executed.deliverHits
  let halt := delivered.breakpoints.haltAfter delivered.registers.pc
  (delivered.poll, .ofRetirement retirement halt)

/-- Resets the registers and forgets a halt; memory, traps and breakpoints
stay as they are. -/
def reset (m : Machine) : Machine :=
  { m with core := m.core.reset, breakpoints := m.breakpoints.resume }

/-! ### Registers and memory -/

/-- Replaces the registers. -/
def putRegisters (m : Machine) (r : Registers) : Machine := { m with core := m.core.putRegisters r }

/-- Sets the program counter. -/
def setPc (m : Machine) (pc : UInt16) : Machine := m.putRegisters { m.registers with pc }

/-- Writes bytes to consecutive addresses; no trap hears of it. -/
def writeBlock (m : Machine) (address : UInt16) (bytes : List UInt8) : Machine :=
  { m with core := m.core.putMemory (m.memory.writeBlock address bytes) }.tell
    (faultNotices (Memory.blockFaults address bytes.length))

/-! ### Observers of data -/

/-- Puts an observer among the others, in the order of handles, in the place
of one with the same handle. -/
def placeObserver (handle : Handle) (label : String) :
    List (Handle × String) → List (Handle × String)
  | [] => [(handle, label)]
  | entry :: rest =>
    if handle.number < entry.1.number then (handle, label) :: entry :: rest
    else if handle = entry.1 then (handle, label) :: rest
    else entry :: placeObserver handle label rest

/-- Registers an observer, which gets the next handle. The number of the next
handle wraps around: behind the largest one comes that of the breakpoints, and
then those which were given out first, whoever they stand for. (Where sums are
checked for overflow, registering with the largest number does not return.) -/
def addObserver (m : Machine) (label : String) : Machine × Handle :=
  let handle : Handle := ⟨m.nextHandle⟩
  ({ m with
      observers := placeObserver handle label m.observers
      nextHandle := m.nextHandle + 1 },
    handle)

/-- Whether a handle stands for a registered observer. -/
def hasObserver (m : Machine) (handle : Handle) : Bool := (m.observer? handle).isSome

/-- Removes an observer with all its traps. An unknown handle changes
nothing. -/
def removeObserver (m : Machine) (handle : Handle) : Machine :=
  if m.hasObserver handle then
    { m with
      observers := m.observers.filter (·.1 ≠ handle)
      core := { m.core with traps := m.core.traps.clearOf handle } }
  else m

/-- Traps an address for a registered observer. An unknown handle changes
nothing. -/
def addTrap (m : Machine) (address : UInt16) (handle : Handle) : Machine :=
  if m.hasObserver handle then
    { m with core := { m.core with traps := m.core.traps.add address handle } }
  else m

/-- Removes one trap at an address. -/
def removeTrap (m : Machine) (address : UInt16) (handle : Handle) : Machine :=
  { m with core := { m.core with traps := m.core.traps.remove address handle } }

/-- Removes all traps at an address, and the breakpoints on data there. -/
def clearTrapsAt (m : Machine) (address : UInt16) : Machine :=
  { m with
    breakpoints := m.breakpoints.forgetData address
    core := { m.core with traps := m.core.traps.clearAt address } }

/-- Removes all traps of an observer. -/
def clearTrapsOf (m : Machine) (handle : Handle) : Machine :=
  { m with core := { m.core with traps := m.core.traps.clearOf handle } }

/-! ### Breakpoints -/

/-- Sets a breakpoint on execution. -/
def addExecBreak (m : Machine) (address : UInt16) : Machine :=
  { m with breakpoints := m.breakpoints.addExec address }

/-- Removes a breakpoint on execution. -/
def removeExecBreak (m : Machine) (address : UInt16) : Machine :=
  { m with breakpoints := m.breakpoints.removeExec address }

/-- Sets a breakpoint on data. -/
def addDataBreak (m : Machine) (kind : AccessKind) (address : UInt16) : Machine :=
  let (breakpoints, traps) := m.breakpoints.addData m.core.traps kind address
  { m with breakpoints, core := { m.core with traps } }

/-- Removes a breakpoint on data. -/
def removeDataBreak (m : Machine) (kind : AccessKind) (address : UInt16) : Machine :=
  let (breakpoints, traps) := m.breakpoints.removeData m.core.traps kind address
  { m with breakpoints, core := { m.core with traps } }

/-- Makes someone the listener for halts. -/
def setListener (m : Machine) (label : String) : Machine :=
  { m with breakpoints := { m.breakpoints with listener := some label } }

/-! ### Displays -/

/-- Registers a display unless its name is taken. -/
def addDisplay (m : Machine) (name : String) : Machine :=
  { m with displays := m.displays.add name }.tell [m.displays.addNotice name]

/-- Removes a display. -/
def removeDisplay (m : Machine) (name : String) : Machine :=
  { m with displays := m.displays.remove name }

/-- Refreshes the displays. -/
def refreshDisplays (m : Machine) : Machine := m.tell (m.displays.refresh m.core)

end Machine

end M68HC11
