import M68HC11.Isa.InstructionSet
import M68HC11.Memory

/-!
Instructions as they stand in memory.

* `Memory.fetch` finds the opcode at an address; `Fetch.encoding?` is what it
  stands for, and `Fetch.size` is how many bytes the instruction has.
* `Memory.instruction?` reads what follows the opcode: the operand, a mask and
  a displacement. Both the execution and the listing of an instruction start
  from there.
-/

namespace M68HC11

/-- An opcode found in memory. -/
structure Fetch where
  /-- Where the instruction begins. -/
  address : UInt16
  page : Page
  opcode : UInt8
  deriving DecidableEq, Repr

namespace Fetch

/-- What the opcode stands for, if it is assigned. -/
def encoding? (f : Fetch) : Option Encoding := f.page.encoding? f.opcode

/-- How many bytes the opcode has, with the byte that selects its page. -/
def opcodeLength (f : Fetch) : Nat := f.page.prebyteLength + 1

/-- Where the bytes behind the opcode begin. -/
def operandAddress (f : Fetch) : UInt16 := f.address + UInt16.ofNat f.opcodeLength

/-- How many bytes the instruction has. Nothing follows an opcode that is not
assigned. -/
def size (f : Fetch) : Nat :=
  f.opcodeLength + ((f.encoding?.map Encoding.operandLength).getD 0)

/-- Where the next instruction begins. -/
def next (f : Fetch) : UInt16 := f.address + UInt16.ofNat f.size

/-- The fault of an opcode that is not assigned. -/
def invalidOpcode (f : Fetch) : Fault := .invalidOpcode f.page f.opcode f.address

/-- The encoding of the opcode, or the fault of having none. -/
def encoding (f : Fetch) : Except Fault Encoding :=
  match f.encoding? with
  | some e => .ok e
  | none => .error f.invalidOpcode

end Fetch

/-- The opcode at an address. -/
def Memory.fetch (m : Memory) (address : UInt16) : Fetch :=
  match Page.ofPrebyte? (m.read address) with
  | some page => ⟨address, page, m.read (address + 1)⟩
  | none => ⟨address, .primary, m.read address⟩

/-- The operand of an instruction. -/
inductive Operand
  /-- The operation says itself what it works on. -/
  | inherent
  /-- An accumulator. -/
  | accumulator (r : Accumulator)
  /-- A byte that is part of the instruction. -/
  | byte (value : UInt8)
  /-- A word that is part of the instruction. -/
  | word (value : UInt16)
  /-- The memory at an address below 256. -/
  | direct (address : UInt8)
  /-- The memory at an address. -/
  | extended (address : UInt16)
  /-- The memory at an offset from an index register. -/
  | indexed (r : IndexRegister) (offset : UInt8)
  /-- The address at a signed distance from the next instruction. -/
  | relative (displacement : UInt8)
  deriving DecidableEq, Repr

/-- An instruction with all that belongs to it. -/
structure Instruction where
  encoding : Encoding
  operand : Operand
  /-- The mask of an operation that has one. -/
  mask : UInt8
  /-- The displacement of a branch on masked bits. -/
  displacement : UInt8
  /-- Where the next instruction begins. -/
  next : UInt16
  deriving DecidableEq, Repr

/-- The operand that stands at an address. -/
def Memory.operand (m : Memory) (e : Encoding) (address : UInt16) : Operand :=
  match e.mode with
  | .inherent => .inherent
  | .accumulator r => .accumulator r
  | .immediate => if e.operation.isWide then .word (m.readWord address) else .byte (m.read address)
  | .direct => .direct (m.read address)
  | .extended => .extended (m.readWord address)
  | .indexed r => .indexed r (m.read address)
  | .relative => .relative (m.read address)

/-- The instruction that an assigned opcode begins. -/
def Memory.complete (m : Memory) (f : Fetch) (e : Encoding) : Instruction where
  encoding := e
  operand := m.operand e f.operandAddress
  mask := if e.operation.hasMask then m.read (f.operandAddress + 1) else 0
  displacement := if e.operation.isBitBranch then m.read (f.operandAddress + 2) else 0
  next := f.next

/-- The instruction that an opcode begins, if it is assigned. -/
def Memory.instruction? (m : Memory) (f : Fetch) : Option Instruction :=
  f.encoding?.map (m.complete f)

/-- The opcode at an address begins there. -/
@[simp] theorem Memory.address_fetch (m : Memory) (address : UInt16) :
    (m.fetch address).address = address := by
  unfold Memory.fetch
  split <;> rfl

end M68HC11
