import M68HC11.Effect

/-!
Traps: registrations of observers for accesses to an address.

An access records one hit for every registration at its address, in the order
of registration, and hits wait in a queue until they are delivered.

* `Traps.hits_recordAll`: what a list of accesses adds to the queue;
  registrations are not changed by it (`entries_recordAll`).
-/

namespace M68HC11

/-- A handle that stands for an observer. -/
structure Handle where
  number : UInt32
  deriving DecidableEq, Repr

/-- The registration of an observer at an address. -/
structure Trap where
  address : UInt16
  observer : Handle
  deriving DecidableEq, Repr

/-- An access that an observer is to hear of. -/
structure Hit where
  observer : Handle
  kind : AccessKind
  address : UInt16
  /-- Where the instruction begins that made the access. -/
  instruction : UInt16
  deriving DecidableEq, Repr

/-- The registrations, in order, and the hits that wait to be delivered. -/
structure Traps where
  entries : List Trap
  hits : List Hit
  deriving DecidableEq, Repr

namespace Traps

/-- A registry without traps. -/
def empty : Traps := ⟨[], []⟩

instance : EmptyCollection Traps := ⟨empty⟩

instance : Inhabited Traps := ⟨empty⟩

/-- Registers an observer at an address, behind all earlier
registrations. -/
def add (t : Traps) (address : UInt16) (observer : Handle) : Traps :=
  { t with entries := t.entries ++ [⟨address, observer⟩] }

/-- Whether an observer is registered at an address. -/
def holds (t : Traps) (address : UInt16) (observer : Handle) : Bool :=
  t.entries.contains ⟨address, observer⟩

/-- Removes the first registration of an observer at an address. -/
def remove (t : Traps) (address : UInt16) (observer : Handle) : Traps :=
  { t with entries := t.entries.erase ⟨address, observer⟩ }

/-- How many registrations there are at an address. -/
def countAt (t : Traps) (address : UInt16) : Nat :=
  t.entries.countP fun trap => trap.address == address

/-- Removes the registrations at an address. -/
def clearAt (t : Traps) (address : UInt16) : Traps :=
  { t with entries := t.entries.filter fun trap => trap.address != address }

/-- How many registrations an observer has. -/
def countOf (t : Traps) (observer : Handle) : Nat :=
  t.entries.countP fun trap => trap.observer == observer

/-- Removes the registrations of an observer. -/
def clearOf (t : Traps) (observer : Handle) : Traps :=
  { t with entries := t.entries.filter fun trap => trap.observer != observer }

/-- Whether any observer is registered at an address. -/
def watches (t : Traps) (address : UInt16) : Bool :=
  t.entries.any fun trap => trap.address == address

/-- The hits of an access: one for each registration at its address, in the
order of registration. -/
def hitsOf (t : Traps) (access : Access) (instruction : UInt16) : List Hit :=
  (t.entries.filter fun trap => trap.address == access.address).map fun trap =>
    ⟨trap.observer, access.kind, access.address, instruction⟩

/-- Records the hits of an access. -/
def record (t : Traps) (access : Access) (instruction : UInt16) : Traps :=
  { t with hits := t.hits ++ t.hitsOf access instruction }

/-- Records the hits of the accesses that an instruction makes. -/
def recordAll (t : Traps) (accesses : List Access) (instruction : UInt16) : Traps :=
  accesses.foldl (fun t access => t.record access instruction) t

/-- The registry with no hit left to deliver. -/
def drain (t : Traps) : Traps := { t with hits := [] }

@[simp] theorem hitsOf_record (t : Traps) (a b : Access) (i j : UInt16) :
    (t.record a i).hitsOf b j = t.hitsOf b j := rfl

/-- Recording hits leaves the registrations alone. -/
@[simp] theorem entries_recordAll (t : Traps) (accesses : List Access) (i : UInt16) :
    (t.recordAll accesses i).entries = t.entries := by
  induction accesses generalizing t with
  | nil => rfl
  | cons a rest ih => exact ih (t.record a i)

/-- The hits of several accesses come behind each other in the queue. -/
theorem hits_recordAll (t : Traps) (accesses : List Access) (i : UInt16) :
    (t.recordAll accesses i).hits = t.hits ++ accesses.flatMap fun a => t.hitsOf a i := by
  induction accesses generalizing t with
  | nil => simp [recordAll]
  | cons a rest ih =>
    show ((t.record a i).recordAll rest i).hits = _
    rw [ih]
    simp [record, hitsOf]

end Traps

end M68HC11
