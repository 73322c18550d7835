import M68HC11.Instruction

/-!
Listings: the instructions in memory as text.

* `Instruction.text` writes an instruction in assembler notation;
* `Memory.row` is a listed instruction with its bytes and a description. An
  opcode that is not assigned is listed too, with its name if it is a system
  opcode.
* `Memory.listing` lists one instruction after the other, and
  `length_listing` says that it lists as many as it is asked for.
-/

namespace M68HC11

/-! ### Assembler notation -/

/-- The operand as it follows the mnemonic. -/
def Operand.text (next : UInt16) : Operand → List Char
  | inherent => []
  | accumulator r => r.suffix.toList
  | byte value => " #".toList ++ Text.Hex.markedByte value
  | word value => " #".toList ++ Text.Hex.markedWord value
  | direct address => ' ' :: Text.Hex.markedWord address.toUInt16
  | extended address => ' ' :: Text.Hex.markedWord address
  | indexed r offset => ' ' :: Nat.toDigits 10 offset.toNat ++ ',' :: r.name.toList
  | relative displacement => ' ' :: Text.Hex.markedWord (Word.displace next displacement)

/-- The mask as it follows the operand. -/
def Instruction.maskText (i : Instruction) : List Char :=
  if i.encoding.operation.hasMask then " #".toList ++ Text.Hex.markedByte i.mask else []

/-- The target of a branch on masked bits as it follows the mask. -/
def Instruction.targetText (i : Instruction) : List Char :=
  if i.encoding.operation.isBitBranch then
    ' ' :: Text.Hex.markedWord (Word.displace i.next i.displacement)
  else []

/-- An instruction in assembler notation. -/
def Instruction.text (i : Instruction) : List Char :=
  i.encoding.operation.mnemonic.toList ++ i.operand.text i.next ++ i.maskText ++ i.targetText

/-! ### Listed instructions -/

/-- A listed instruction. -/
structure ListingRow where
  address : UInt16
  size : Nat
  bytes : List UInt8
  text : String
  description : String
  /-- Whether the opcode is not assigned. -/
  isInvalid : Bool
  deriving DecidableEq, Repr

/-- The text of an opcode that has no name. -/
def unassignedText : String := "ERR"

/-- The description of an opcode that has no name. -/
def unassignedDescription : String := "Invalid opcode!"

/-- Text and description of an opcode that is not assigned. -/
def Fetch.unassignedTexts (f : Fetch) : String × String :=
  match f.page.systemOpcode? f.opcode with
  | some system => (system.mnemonic, system.description)
  | none => (unassignedText, unassignedDescription)

/-- The instruction at an address as it is listed. -/
def Memory.row (m : Memory) (address : UInt16) : ListingRow :=
  let f := m.fetch address
  let bytes := m.readBlock address f.size
  match m.instruction? f with
  | some i => ⟨address, f.size, bytes, String.ofList i.text, i.encoding.operation.summary, false⟩
  | none => ⟨address, f.size, bytes, f.unassignedTexts.1, f.unassignedTexts.2, true⟩

/-- The instruction after a listed one. -/
def ListingRow.next (row : ListingRow) : UInt16 := row.address + UInt16.ofNat row.size

/-- The instructions from an address on, as they are listed, behind the given
rows in reverse order. -/
def Memory.listingBehind (m : Memory) (rows : List ListingRow) (start : UInt16) :
    Nat → List ListingRow
  | 0 => rows.reverse
  | count + 1 =>
    let row := m.row start
    m.listingBehind (row :: rows) row.next count

/-- The instructions from an address on, as they are listed. -/
def Memory.listing (m : Memory) (start : UInt16) (count : Nat) : List ListingRow :=
  m.listingBehind [] start count

/-- The rows in front do not change what is listed. -/
theorem Memory.listingBehind_eq (m : Memory) (rows : List ListingRow) (start : UInt16)
    (count : Nat) : m.listingBehind rows start count = rows.reverse ++ m.listing start count := by
  induction count generalizing rows start with
  | zero => simp [listing, listingBehind]
  | succ n ih =>
    show m.listingBehind (m.row start :: rows) (m.row start).next n =
      rows.reverse ++ m.listingBehind [m.row start] (m.row start).next n
    rw [ih, ih]
    simp

@[simp] theorem Memory.listing_zero (m : Memory) (start : UInt16) : m.listing start 0 = [] := rfl

/-- A listing goes on where its first row ends. -/
theorem Memory.listing_succ (m : Memory) (start : UInt16) (count : Nat) :
    m.listing start (count + 1) = m.row start :: m.listing (m.row start).next count := by
  show m.listingBehind [m.row start] (m.row start).next count = _
  rw [listingBehind_eq]
  rfl

@[simp] theorem Memory.length_listing (m : Memory) (start : UInt16) (count : Nat) :
    (m.listing start count).length = count := by
  induction count generalizing start with
  | zero => rfl
  | succ n ih => rw [listing_succ, List.length_cons, ih]

end M68HC11
