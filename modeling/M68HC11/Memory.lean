import M68HC11.Fault
import M68HC11.Word

/-!
Memory: a byte for each of the 65536 addresses.

* `read` is the view of a memory: two memories that read alike are equal
  (`ext_read`), and `read_write` says what a write does to it.
* `writeBlock` writes bytes to consecutive addresses and wraps around at the
  end of the address space; `writeBlock_append` writes a block in two parts.
-/

namespace M68HC11

/-- A memory. -/
structure Memory where
  cells : Vector UInt8 65536
  deriving DecidableEq

namespace Memory

/-- The memory that holds zero at every address. -/
def zero : Memory := ⟨Vector.replicate 65536 0⟩

instance : Inhabited Memory := ⟨zero⟩

/-- The byte at an address. -/
def read (m : Memory) (address : UInt16) : UInt8 :=
  have := address.toNat_lt
  m.cells[address.toNat]

/-- Replaces the byte at an address. -/
def write (m : Memory) (address : UInt16) (value : UInt8) : Memory :=
  have := address.toNat_lt
  ⟨m.cells.set address.toNat value⟩

/-- The word at an address, its more significant byte first. The second byte
of a word at the last address is the first byte of the memory. -/
def readWord (m : Memory) (address : UInt16) : UInt16 :=
  Word.join (m.read address) (m.read (address + 1))

/-- The bytes from an address on, around the end of the address space. -/
def readBlock (m : Memory) (address : UInt16) : Nat → List UInt8
  | 0 => []
  | count + 1 => m.read address :: m.readBlock (address + 1) count

/-- Writes bytes to consecutive addresses, around the end of the address
space. -/
def writeBlock (m : Memory) (address : UInt16) : List UInt8 → Memory
  | [] => m
  | b :: bs => (m.write address b).writeBlock (address + 1) bs

/-- Where a block ends, as a number of 32 bits: a length beyond these counts as
the largest of them, and the sum wraps around. (Where sums are checked for
overflow, writing a block that makes it wrap around does not return.) -/
def blockEnd (address : UInt16) (length : Nat) : UInt32 :=
  address.toUInt32 + UInt32.ofNat (min length (UInt32.size - 1))

/-- The fault of writing a block that is longer than the rest of the address
space. -/
def blockFaults (address : UInt16) (length : Nat) : List Fault :=
  let stop := blockEnd address length
  if 65536 < stop then [.addressOutOfRange (stop - 1).toNat] else []

/-- Memories that read alike are equal. -/
theorem ext_read {m₁ m₂ : Memory} (h : ∀ address, m₁.read address = m₂.read address) :
    m₁ = m₂ := by
  obtain ⟨c₁⟩ := m₁
  obtain ⟨c₂⟩ := m₂
  have hcells : c₁ = c₂ := by
    refine Vector.ext fun i hi => ?_
    have hi' := h (UInt16.ofNat i)
    simpa only [read, UInt16.toNat_ofNat', Nat.mod_eq_of_lt hi] using hi'
  rw [hcells]

@[simp] theorem read_zero (address : UInt16) : zero.read address = 0 := by
  simp [zero, read]

/-- A write is read back at its address and changes no other. -/
theorem read_write (m : Memory) (address other : UInt16) (value : UInt8) :
    (m.write address value).read other = if other = address then value else m.read other := by
  simp only [read, write, Vector.getElem_set, UInt16.toNat_inj, eq_comm]

@[simp] theorem read_write_self (m : Memory) (address : UInt16) (value : UInt8) :
    (m.write address value).read address = value := by
  simp [read_write]

/-- Writing a block in two parts. -/
theorem writeBlock_append (m : Memory) (address : UInt16) (xs ys : List UInt8) :
    m.writeBlock address (xs ++ ys) =
      (m.writeBlock address xs).writeBlock (address + UInt16.ofNat xs.length) ys := by
  induction xs generalizing m address with
  | nil => simp [writeBlock]
  | cons x xs ih =>
    rw [List.cons_append, writeBlock, ih, writeBlock, List.length_cons]
    congr 1
    rw [UInt16.ofNat_add, UInt16.add_comm (UInt16.ofNat xs.length), ← UInt16.add_assoc]
    rfl

@[simp] theorem length_readBlock (m : Memory) (address : UInt16) (count : Nat) :
    (m.readBlock address count).length = count := by
  induction count generalizing address with
  | zero => rfl
  | succ n ih => simp [readBlock, ih]

end Memory

end M68HC11
