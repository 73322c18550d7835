/-!
Why a path does not lead to a file that can be read or written.

Systems know these faults by numbers, which are part of their messages;
`ofNumber?_eq_some_iff` says that no two faults share one.
-/

namespace M68HC11

/-- Why a path does not lead to a file. -/
inductive PathFault
  /-- There is no such file. -/
  | notFound
  /-- The file may not be used. -/
  | permissionDenied
  /-- A file was taken for a directory. -/
  | notDirectory
  /-- A directory was taken for a file. -/
  | isDirectory
  /-- A name has too many bytes. -/
  | nameTooLong
  deriving DecidableEq, Repr

namespace PathFault

/-- The faults. -/
def all : List PathFault := [notFound, permissionDenied, notDirectory, isDirectory, nameTooLong]

/-- The number by which systems know the fault. -/
def number : PathFault → Nat
  | notFound => 2
  | permissionDenied => 13
  | notDirectory => 20
  | isDirectory => 21
  | nameTooLong => 36

/-- The fault in words. -/
def reason : PathFault → String
  | notFound => "No such file or directory"
  | permissionDenied => "Permission denied"
  | notDirectory => "Not a directory"
  | isDirectory => "Is a directory"
  | nameTooLong => "File name too long"

/-- A reason with the number by which systems know it. -/
def numbered (reason : String) (number : Nat) : String := s!"{reason} (os error {number})"

/-- The message about the fault. -/
def message (fault : PathFault) : String := numbered fault.reason fault.number

/-- The fault with a number. -/
def ofNumber? (n : Nat) : Option PathFault := all.find? (·.number == n)

/-- A fault is found by its number and by no other. -/
theorem ofNumber?_eq_some_iff {n : Nat} {fault : PathFault} :
    ofNumber? n = some fault ↔ fault.number = n := by
  constructor
  · intro h
    simpa using List.find?_some h
  · rintro rfl
    cases fault <;> rfl

end PathFault

end M68HC11
