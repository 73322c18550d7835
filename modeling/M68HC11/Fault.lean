import M68HC11.Isa.Page
import M68HC11.Text.Hex

/-!
Faults: what goes wrong without stopping the machine. An instruction with a
fault is still finished, and a fault is only warned about.
-/

namespace M68HC11

/-- A fault. -/
inductive Fault
  /-- The opcode is not assigned; `address` is where the instruction
  begins. -/
  | invalidOpcode (page : Page) (opcode : UInt8) (address : UInt16)
  /-- An access went past the last address, to the given address before it
  wrapped around. -/
  | addressOutOfRange (address : Nat)
  deriving DecidableEq, Repr

namespace Fault

/-- The warning about a fault. -/
def message : Fault → String
  | invalidOpcode page opcode address =>
    "unsupported opcode " ++ String.ofList (Text.Hex.markedByte opcode) ++ " on " ++ page.text ++
      " at " ++ String.ofList (Text.Hex.markedWord address)
  | addressOutOfRange address =>
    "address " ++ String.ofList (Text.Hex.markedNumber address) ++
      " is outside the 64 KiB address space"

/-- Whether the fault is an opcode that is not assigned. -/
def isInvalidOpcode : Fault → Bool
  | invalidOpcode .. => true
  | addressOutOfRange _ => false

end Fault

/-- The fault of going `distance` past `base` if that leaves the address
space. -/
def overrun (base : UInt16) (distance : Nat) : List Fault :=
  if base.toNat + distance < 65536 then [] else [.addressOutOfRange (base.toNat + distance)]

/-- There is no overrun inside the address space. -/
theorem overrun_eq_nil_iff {base : UInt16} {distance : Nat} :
    overrun base distance = [] ↔ base.toNat + distance < 65536 := by
  unfold overrun
  split <;> simp [*]

end M68HC11
