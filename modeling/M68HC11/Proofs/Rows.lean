import M68HC11.Listing
import Mathlib.Tactic.Common

/-!
The rows of listings, field by field.

* `Memory.row_eq` and `Memory.row_eq_of_none` are the rows of an opcode that is
  assigned and of one that is not, and `Memory.size_row` and its siblings the
  fields that both have in common;
* `Page.memory_of_hasMask`: an operation with a mask has one byte of operand in
  front of it.
-/

namespace M68HC11

/-- An operation with a mask works on a byte of memory whose address follows
the opcode as one byte. -/
lemma Page.memory_of_hasMask {page : Page} {opcode : UInt8} {e : Encoding}
    (h : page.encoding? opcode = some e) (hmask : e.operation.hasMask) :
    e.mode.isMemory ∧ ∀ wide, e.mode.operandLength wide = 1 := by
  have htable : ∀ row ∈ encodings, row.encoding.operation.hasMask →
      row.encoding.mode.isMemory ∧ ∀ wide, row.encoding.mode.operandLength wide = 1 := by
    decide +kernel
  exact htable _ (encoding?_eq_some_iff.mp h) hmask

namespace Memory

variable {m : Memory} {address : UInt16} {e : Encoding}

/-- The row of an assigned opcode. -/
lemma row_eq (h : (m.fetch address).encoding? = some e) :
    m.row address =
      ⟨address, (m.fetch address).size, m.readBlock address (m.fetch address).size,
        String.ofList (m.complete (m.fetch address) e).text, e.operation.summary, false⟩ := by
  simp only [row, instruction?, h, Option.map_some]
  rfl

/-- The row of an opcode that is not assigned. -/
lemma row_eq_of_none (h : (m.fetch address).encoding? = none) :
    m.row address =
      ⟨address, (m.fetch address).size, m.readBlock address (m.fetch address).size,
        (m.fetch address).unassignedTexts.1, (m.fetch address).unassignedTexts.2, true⟩ := by
  simp only [row, instruction?, h, Option.map_none]

/-- What the row of an opcode has, whether it is assigned or not. -/
lemma exists_row_eq (m : Memory) (address : UInt16) :
    ∃ text description, m.row address =
      ⟨address, (m.fetch address).size, m.readBlock address (m.fetch address).size, text,
        description, (m.fetch address).encoding?.isNone⟩ := by
  cases h : (m.fetch address).encoding? with
  | none => exact ⟨_, _, row_eq_of_none h⟩
  | some e => exact ⟨_, _, row_eq h⟩

/-- A row is at its address. -/
lemma address_row (m : Memory) (address : UInt16) : (m.row address).address = address := by
  obtain ⟨text, description, hrow⟩ := m.exists_row_eq address
  rw [hrow]

/-- A row has the size of its instruction. -/
lemma size_row (m : Memory) (address : UInt16) :
    (m.row address).size = (m.fetch address).size := by
  obtain ⟨text, description, hrow⟩ := m.exists_row_eq address
  rw [hrow]

/-- A row has the bytes that stand there. -/
lemma bytes_row (m : Memory) (address : UInt16) :
    (m.row address).bytes = m.readBlock address (m.row address).size := by
  obtain ⟨text, description, hrow⟩ := m.exists_row_eq address
  rw [hrow]

/-- A row is marked exactly if its opcode is not assigned. -/
lemma isInvalid_row (m : Memory) (address : UInt16) :
    (m.row address).isInvalid = (m.fetch address).encoding?.isNone := by
  obtain ⟨text, description, hrow⟩ := m.exists_row_eq address
  rw [hrow]

/-- The next row begins where the next instruction does. -/
lemma next_row (m : Memory) (address : UInt16) :
    (m.row address).next = (m.fetch address).next := by
  rw [ListingRow.next, Fetch.next, address_fetch, address_row, size_row]

/-- The row of a system opcode names it, and is marked as not assigned. -/
lemma row_of_systemOpcode? {system : Page.SystemOpcode}
    (h : (m.fetch address).page.systemOpcode? (m.fetch address).opcode = some system) :
    (m.row address).isInvalid = true ∧ (m.row address).text = system.mnemonic := by
  have hnone : (m.fetch address).encoding? = none := by
    have hfind := h
    rw [Page.systemOpcode?] at hfind
    split_ifs at hfind with hpage
    have hopcode : system.opcode = (m.fetch address).opcode := by
      simpa using List.find?_some hfind
    rw [Fetch.encoding?, hpage, ← hopcode]
    exact Page.encoding?_of_mem_systemOpcodes _ (List.mem_of_find?_eq_some hfind)
  rw [row_eq_of_none hnone, Fetch.unassignedTexts, h]
  exact ⟨rfl, rfl⟩

end Memory

end M68HC11
