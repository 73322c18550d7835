import M68HC11.AddressSet
import M68HC11.Notice
import M68HC11.Traps

/-!
Breakpoints: addresses at which a machine halts.

A breakpoint on execution is compared with the program counter after each
instruction. A breakpoint on reading or writing registers a trap; a hit makes
the halt pending, and the poll after the instruction turns it into a halt at
that instruction.

* `Breakpoints.poll` decides whether the machine halts: a pending halt goes
  before a breakpoint on execution.
-/

namespace M68HC11

/-- Whether a machine has halted. -/
inductive HaltState
  /-- No halt is asked for. -/
  | running
  /-- The instruction at the address has hit a breakpoint on data. -/
  | pending (address : UInt16)
  /-- The machine has halted at the address. -/
  | halted (address : UInt16)
  deriving DecidableEq, Repr

namespace HaltState

/-- Where the machine has halted, if it has. -/
def haltedAt : HaltState → Option UInt16
  | halted address => some address
  | _ => none

/-- Whether a halt is pending. -/
def isPending : HaltState → Bool
  | pending _ => true
  | _ => false

end HaltState

/-- The breakpoints of a machine. -/
structure Breakpoints where
  /-- The handle under which breakpoints on data are trapped. -/
  owner : Handle
  exec : AddressSet
  read : AddressSet
  write : AddressSet
  state : HaltState
  /-- Who hears of every halt. -/
  listener : Option String
  deriving DecidableEq

namespace Breakpoints

/-- No breakpoints. -/
def ofOwner (owner : Handle) : Breakpoints := ⟨owner, ∅, ∅, ∅, .running, none⟩

/-- The breakpoints on one kind of access. -/
def data (b : Breakpoints) : AccessKind → AddressSet
  | .read => b.read
  | .write => b.write

/-- Replaces the breakpoints on one kind of access. -/
def putData (b : Breakpoints) (kind : AccessKind) (addresses : AddressSet) : Breakpoints :=
  match kind with
  | .read => { b with read := addresses }
  | .write => { b with write := addresses }

@[simp] theorem owner_putData (b : Breakpoints) (kind : AccessKind) (addresses : AddressSet) :
    (b.putData kind addresses).owner = b.owner := by
  cases kind <;> rfl

/-- Breakpoints on one kind of access are put apart from those on the other. -/
theorem data_putData (b : Breakpoints) (kind other : AccessKind) (addresses : AddressSet) :
    (b.putData kind addresses).data other = if other = kind then addresses else b.data other := by
  cases kind <;> cases other <;> rfl

/-- Forgets a halt, so that execution can go on. -/
def resume (b : Breakpoints) : Breakpoints := { b with state := .running }

/-- Sets a breakpoint on execution. -/
def addExec (b : Breakpoints) (address : UInt16) : Breakpoints :=
  { b with exec := b.exec.insert address }

/-- Removes a breakpoint on execution. -/
def removeExec (b : Breakpoints) (address : UInt16) : Breakpoints :=
  { b with exec := b.exec.erase address }

/-- Sets a breakpoint on data and its trap, unless it is set already. -/
def addData (b : Breakpoints) (traps : Traps) (kind : AccessKind) (address : UInt16) :
    Breakpoints × Traps :=
  if (b.data kind).contains address then (b, traps)
  else (b.putData kind ((b.data kind).insert address), traps.add address b.owner)

/-- Removes a breakpoint on data and one of its owner's traps at the
address. -/
def removeData (b : Breakpoints) (traps : Traps) (kind : AccessKind) (address : UInt16) :
    Breakpoints × Traps :=
  if (b.data kind).contains address then
    (b.putData kind ((b.data kind).erase address), traps.remove address b.owner)
  else (b, traps)

/-- Forgets the breakpoints on data at an address whose traps are gone. -/
def forgetData (b : Breakpoints) (address : UInt16) : Breakpoints :=
  { b with read := b.read.erase address, write := b.write.erase address }

/-- Hears of an access to a trapped address. An access that has a breakpoint
makes a halt at its instruction pending. -/
def hear (b : Breakpoints) (kind : AccessKind) (address instruction : UInt16) : Breakpoints :=
  if (b.data kind).contains address then { b with state := .pending instruction } else b

/-- Where to halt after an instruction that leaves the given program
counter. -/
def haltAfter (b : Breakpoints) (pc : UInt16) : Option UInt16 :=
  match b.state with
  | .pending address => some address
  | _ => if b.exec.contains pc then some pc else none

/-- What a halt is announced by. -/
def haltNotices (b : Breakpoints) (address : UInt16) : List Notice :=
  .log (.breakpointHalt address) :: b.listener.toList.map (.halted · address)

/-- The breakpoints after the poll that follows an instruction. -/
def poll (b : Breakpoints) (pc : UInt16) : Breakpoints :=
  match b.haltAfter pc with
  | some address => { b with state := .halted address }
  | none => b

/-- The notices of the poll that follows an instruction. -/
def pollNotices (b : Breakpoints) (pc : UInt16) : List Notice :=
  match b.haltAfter pc with
  | some address => b.haltNotices address
  | none => []

end Breakpoints

end M68HC11
