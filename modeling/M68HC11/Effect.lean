import M68HC11.Instruction
import M68HC11.Registers

/-!
The effect of an instruction: the registers it leaves, the data it reads and
the bytes it writes.

No instruction writes before it has read all it needs, and which addresses it
reads and writes does not depend on what it finds there. An effect therefore
keeps reads and writes as two lists, each in order (`Effect.accesses` puts
them one after the other).

* `Reading` is a value from memory with the addresses it was read from, so
  that no data can be used without being accounted for;
* `Operand.readByte`, `Operand.readWord`, `Effect.putByte` and
  `Effect.putWord` read and write operands in every addressing mode;
* `Effect.pushByte`, `Effect.pushWord`, `pullByte` and `pullWord` are the
  accesses to the stack, which grows towards address zero.
-/

namespace M68HC11

/-! ### Accesses -/

/-- Whether data is read or written. -/
inductive AccessKind
  | read
  | write
  deriving DecidableEq, Repr

/-- An access to a byte of data. -/
structure Access where
  kind : AccessKind
  address : UInt16
  deriving DecidableEq, Repr

/-- A value from memory, with the addresses it was read from in order and the
faults of reading it. -/
structure Reading (α : Type) where
  value : α
  reads : List UInt16
  faults : List Fault
  deriving DecidableEq, Repr

namespace Reading

/-- A value that needs no access. -/
def ofValue {α : Type} (value : α) : Reading α := ⟨value, [], []⟩

end Reading

namespace Memory

/-- Reads a byte of data. -/
def dataByte (m : Memory) (address : UInt16) : Reading UInt8 := ⟨m.read address, [address], []⟩

/-- Reads a word of data, the more significant byte first. -/
def dataWord (m : Memory) (address : UInt16) : Reading UInt16 :=
  ⟨m.readWord address, [address, address + 1], overrun address 1⟩

end Memory

/-! ### Effects -/

/-- The effect of an instruction. -/
structure Effect where
  registers : Registers
  /-- The addresses read, in order. -/
  reads : List UInt16
  /-- The bytes written, in order, after everything has been read. -/
  writes : List (UInt16 × UInt8)
  faults : List Fault
  deriving DecidableEq, Repr

namespace Effect

/-- An effect on registers alone. -/
def ofRegisters (r : Registers) : Effect := ⟨r, [], [], []⟩

/-- An effect on registers for which a value was read. -/
def ofReading {α : Type} (v : Reading α) (r : Registers) : Effect := ⟨r, v.reads, [], v.faults⟩

/-- The accesses to data, in order. -/
def accesses (e : Effect) : List Access :=
  e.reads.map (⟨.read, ·⟩) ++ e.writes.map fun w => ⟨.write, w.1⟩

/-- The memory after the writes. -/
def commit (e : Effect) (m : Memory) : Memory := e.writes.foldl (fun m w => m.write w.1 w.2) m

/-- The effect followed by writing a byte. -/
def writeByte (e : Effect) (address : UInt16) (value : UInt8) : Effect :=
  { e with writes := e.writes ++ [(address, value)] }

/-- The effect followed by writing a word, the more significant byte
first. -/
def writeWord (e : Effect) (address : UInt16) (value : UInt16) : Effect :=
  { e with
    writes := e.writes ++ [(address, Word.high value), (address + 1, Word.low value)]
    faults := e.faults ++ overrun address 1 }

end Effect

/-! ### Operands -/

namespace Operand

/-- The address of an operand in memory. -/
def address? (o : Operand) (r : Registers) : Option UInt16 :=
  match o with
  | direct address => some address.toUInt16
  | extended address => some address
  | indexed i offset => some (r.index i + offset.toUInt16)
  | _ => none

/-- The fault of an offset that leads past the last address. -/
def faults (o : Operand) (r : Registers) : List Fault :=
  match o with
  | indexed i offset => overrun (r.index i) offset.toNat
  | _ => []

/-- The operand as a byte; of a word it is the less significant one. -/
def readByte (o : Operand) (r : Registers) (m : Memory) : Reading UInt8 :=
  match o with
  | byte value => .ofValue value
  | accumulator which => .ofValue (r.accumulator which)
  | word value => .ofValue (Word.low value)
  | o => match o.address? r with
    | some address => m.dataByte address
    | none => .ofValue 0

/-- The operand as a word; for an accumulator it is both of them together. -/
def readWord (o : Operand) (r : Registers) (m : Memory) : Reading UInt16 :=
  match o with
  | word value => .ofValue value
  | byte value => .ofValue value.toUInt16
  | accumulator _ => .ofValue r.d
  | o => match o.address? r with
    | some address => m.dataWord address
    | none => .ofValue 0

end Operand

namespace Effect

/-- The effect followed by replacing the operand, a byte. The address of an
operand in memory is the one it had before the effect, with the registers
`r`. -/
def putByte (e : Effect) (o : Operand) (r : Registers) (value : UInt8) : Effect :=
  match o with
  | .accumulator which => { e with registers := e.registers.putAccumulator which value }
  | o => match o.address? r with
    | some address => e.writeByte address value
    | none => e

/-- The effect followed by replacing the operand, a word in memory. -/
def putWord (e : Effect) (o : Operand) (r : Registers) (value : UInt16) : Effect :=
  match o.address? r with
  | some address => e.writeWord address value
  | none => e

end Effect

/-! ### The stack -/

namespace Effect

/-- Pushes a byte: it is written where the stack pointer points, which then
moves down. -/
def pushByte (r : Registers) (value : UInt8) : Effect :=
  ⟨{ r with sp := r.sp - 1 }, [], [(r.sp, value)], []⟩

/-- Pushes a word, the less significant byte first, so that it can be read as
a word right above the stack pointer. -/
def pushWord (r : Registers) (value : UInt16) : Effect :=
  ⟨{ r with sp := r.sp - 2 }, [], [(r.sp, Word.low value), (r.sp - 1, Word.high value)], []⟩

end Effect

/-- The byte on top of the stack. -/
def pullByte (r : Registers) (m : Memory) : Reading UInt8 := m.dataByte (r.sp + 1)

/-- The word on top of the stack. -/
def pullWord (r : Registers) (m : Memory) : Reading UInt16 :=
  ⟨m.readWord (r.sp + 1), [r.sp + 1, r.sp + 2], []⟩

/-- The registers after so many bytes were taken from the stack. -/
def Registers.drop (r : Registers) (count : UInt16) : Registers := { r with sp := r.sp + count }

end M68HC11
