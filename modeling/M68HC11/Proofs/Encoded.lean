import M68HC11.Proofs.Rows

/-!
The bytes of an instruction.

* `Fetch.code` and `Instruction.trailer` are the bytes of the opcode and those
  behind it; `Memory.readBlock_size`: in memory the one is followed by the
  other;
* `Memory.fetch_of_readBlock`: the bytes of an opcode determine it, wherever
  they stand, and `Memory.complete_of_trailer`: those behind it determine the
  instruction;
* `Memory.row_congr`: a row depends on its own bytes and on no other;
* `Memory.bytes_eq_of_prefix`: the bytes of a row are not the first bytes of a
  longer row.
-/

namespace M68HC11

/-! ### Blocks of memory -/

namespace Memory

/-- A byte of a block. -/
lemma getElem?_readBlock (m : Memory) (address : UInt16) {i count : Nat} (h : i < count) :
    (m.readBlock address count)[i]? = some (m.read (address + UInt16.ofNat i)) := by
  induction count generalizing address i with
  | zero => exact absurd h (Nat.not_lt_zero i)
  | succ count ih =>
      cases i with
      | zero => simp [readBlock]
      | succ i =>
          rw [readBlock, List.getElem?_cons_succ, ih (address + 1) (Nat.lt_of_succ_lt_succ h),
            UInt16.add_assoc, UInt16.add_comm 1, UInt16.ofNat_add]
          rfl

/-- A block in two parts. -/
lemma readBlock_add (m : Memory) (address : UInt16) (count more : Nat) :
    m.readBlock address (count + more) =
      m.readBlock address count ++ m.readBlock (address + UInt16.ofNat count) more := by
  induction count generalizing address with
  | zero => simp [readBlock]
  | succ count ih =>
      rw [Nat.add_right_comm, readBlock, readBlock, ih, UInt16.ofNat_add, List.cons_append,
        UInt16.add_assoc, UInt16.add_comm 1]
      rfl

/-- Blocks with the same bytes are equal. -/
lemma readBlock_congr {m₁ m₂ : Memory} {a b : UInt16} {count : Nat}
    (h : ∀ i < count, m₁.read (a + UInt16.ofNat i) = m₂.read (b + UInt16.ofNat i)) :
    m₁.readBlock a count = m₂.readBlock b count := by
  refine List.ext_getElem? fun i => ?_
  rcases Nat.lt_or_ge i count with hlt | hge
  · rw [getElem?_readBlock m₁ a hlt, getElem?_readBlock m₂ b hlt, h i hlt]
  · rw [List.getElem?_eq_none (by simpa using hge), List.getElem?_eq_none (by simpa using hge)]

end Memory

/-! ### The opcode -/

/-- The bytes of an opcode. -/
def Fetch.code (f : Fetch) : List UInt8 := f.page.prebyte?.toList ++ [f.opcode]

namespace Memory

variable {m m₁ m₂ : Memory} {a b : UInt16}

/-- An opcode on a page of its own. -/
lemma fetch_eq_of_prebyte {page : Page} (h : Page.ofPrebyte? (m.read a) = some page) :
    m.fetch a = ⟨a, page, m.read (a + 1)⟩ := by
  rw [fetch, h]

/-- An opcode of the first page. -/
lemma fetch_eq_of_none (h : Page.ofPrebyte? (m.read a) = none) :
    m.fetch a = ⟨a, .primary, m.read a⟩ := by
  rw [fetch, h]

/-- The bytes of an opcode stand where it begins. -/
lemma readBlock_opcodeLength (m : Memory) (a : UInt16) :
    m.readBlock a (m.fetch a).opcodeLength = (m.fetch a).code := by
  cases h : Page.ofPrebyte? (m.read a) with
  | none => rw [fetch_eq_of_none h]; rfl
  | some page =>
      have hprebyte := Page.ofPrebyte?_eq_some_iff.mp h
      rw [fetch_eq_of_prebyte h]
      simp only [Fetch.opcodeLength, Page.prebyteLength, Fetch.code, hprebyte, Option.isSome_some,
        if_true]
      rfl

/-- The bytes of an opcode determine it, wherever they stand. -/
lemma fetch_of_readBlock
    (h : m₂.readBlock b (m₁.fetch a).opcodeLength = m₁.readBlock a (m₁.fetch a).opcodeLength) :
    m₂.fetch b = { m₁.fetch a with address := b } := by
  cases hpage : Page.ofPrebyte? (m₁.read a) with
  | none =>
      rw [fetch_eq_of_none hpage] at h ⊢
      obtain ⟨hread, -⟩ := List.cons.inj (h : m₂.read b :: [] = m₁.read a :: [])
      rw [← hread] at hpage ⊢
      exact fetch_eq_of_none hpage
  | some page =>
      have hprebyte := Page.ofPrebyte?_eq_some_iff.mp hpage
      rw [fetch_eq_of_prebyte hpage] at h ⊢
      simp only [Fetch.opcodeLength, Page.prebyteLength, hprebyte, Option.isSome_some,
        if_true, readBlock, List.cons.injEq, and_true] at h
      obtain ⟨hread, hnext⟩ := h
      rw [← hread] at hpage
      rw [← hnext]
      exact fetch_eq_of_prebyte hpage

end Memory

/-! ### What follows the opcode -/

/-- The bytes of an operand. -/
def Operand.bytes : Operand → List UInt8
  | inherent | accumulator _ => []
  | byte value => [value]
  | word value => [Word.high value, Word.low value]
  | direct address => [address]
  | extended address => [Word.high address, Word.low address]
  | indexed _ offset => [offset]
  | relative displacement => [displacement]

namespace Instruction

/-- The byte of the mask, if there is one. -/
def maskBytes (i : Instruction) : List UInt8 :=
  if i.encoding.operation.hasMask then [i.mask] else []

/-- The byte of the displacement behind the mask, if there is one. -/
def displacementBytes (i : Instruction) : List UInt8 :=
  if i.encoding.operation.isBitBranch then [i.displacement] else []

/-- The bytes behind the opcode. -/
def trailer (i : Instruction) : List UInt8 :=
  i.operand.bytes ++ i.maskBytes ++ i.displacementBytes

end Instruction

namespace Memory

variable {m m₁ m₂ : Memory} {e : Encoding} {f : Fetch}

/-- The operand that is read has the bytes that stand there. -/
lemma bytes_operand (m : Memory) (e : Encoding) (a : UInt16) :
    (m.operand e a).bytes = m.readBlock a (e.mode.operandLength e.operation.isWide) := by
  obtain ⟨operation, mode, cycles⟩ := e
  have hword : [Word.high (m.readWord a), Word.low (m.readWord a)] = m.readBlock a 2 := by
    rw [readWord, Word.high_join, Word.low_join]
    rfl
  cases mode with
  | immediate =>
      simp only [operand, Mode.operandLength]
      cases operation.isWide with
      | false => rfl
      | true => exact hword
  | extended => exact hword
  | _ => rfl

/-- The bytes of an operand determine it. -/
lemma operand_of_bytes {a b : UInt16} (h : (m₁.operand e a).bytes = (m₂.operand e b).bytes) :
    m₁.operand e a = m₂.operand e b := by
  obtain ⟨operation, mode, cycles⟩ := e
  have hword {v w : UInt16} (hbytes : [Word.high v, Word.low v] = [Word.high w, Word.low w]) :
      v = w := by
    obtain ⟨hhigh, hrest⟩ := List.cons.inj hbytes
    obtain ⟨hlow, -⟩ := List.cons.inj hrest
    rw [← Word.join_high_low v, hhigh, hlow, Word.join_high_low]
  cases mode with
  | inherent | accumulator => rfl
  | immediate =>
      simp only [operand] at h ⊢
      cases hwide : operation.isWide with
      | false =>
          simp only [hwide] at h ⊢
          exact congrArg Operand.byte (List.cons.inj h).1
      | true =>
          simp only [hwide, if_true] at h ⊢
          exact congrArg Operand.word (hword h)
  | extended => exact congrArg Operand.extended (hword h)
  | direct => exact congrArg Operand.direct (List.cons.inj h).1
  | indexed r => exact congrArg (Operand.indexed r) (List.cons.inj h).1
  | relative => exact congrArg Operand.relative (List.cons.inj h).1

/-- The mask that is read has the byte that stands there. -/
lemma maskBytes_complete (h : f.encoding? = some e) :
    (m.complete f e).maskBytes =
      m.readBlock (f.operandAddress + UInt16.ofNat (e.mode.operandLength e.operation.isWide))
        (if e.operation.hasMask then 1 else 0) := by
  cases hmask : e.operation.hasMask with
  | false => simp only [Instruction.maskBytes, complete, hmask, Bool.false_eq_true, if_false]; rfl
  | true =>
      obtain ⟨-, hlength⟩ := Page.memory_of_hasMask h hmask
      simp only [Instruction.maskBytes, complete, hmask, hlength, if_true]
      rfl

/-- The displacement that is read has the byte that stands there. -/
lemma displacementBytes_complete (h : f.encoding? = some e) :
    (m.complete f e).displacementBytes =
      m.readBlock (f.operandAddress + UInt16.ofNat (e.mode.operandLength e.operation.isWide +
          if e.operation.hasMask then 1 else 0))
        (if e.operation.isBitBranch then 1 else 0) := by
  cases hbranch : e.operation.isBitBranch with
  | false =>
      simp only [Instruction.displacementBytes, complete, hbranch, Bool.false_eq_true, if_false]
      rfl
  | true =>
      have hmask := Operation.hasMask_of_isBitBranch hbranch
      obtain ⟨-, hlength⟩ := Page.memory_of_hasMask h hmask
      simp only [Instruction.displacementBytes, complete, hbranch, hmask, hlength, if_true]
      rfl

/-- The bytes behind an opcode are those of the instruction it begins. -/
lemma trailer_complete (h : f.encoding? = some e) :
    (m.complete f e).trailer = m.readBlock f.operandAddress e.operandLength := by
  have hoperand : (m.complete f e).operand.bytes =
      m.readBlock f.operandAddress (e.mode.operandLength e.operation.isWide) :=
    m.bytes_operand e f.operandAddress
  rw [Instruction.trailer, hoperand, maskBytes_complete h, displacementBytes_complete h,
    ← readBlock_add, ← readBlock_add, Encoding.operandLength]

/-- Instructions that one opcode begins are equal if their operands, masks and
displacements are. -/
lemma complete_ext
    (hoperand : m₁.operand e f.operandAddress = m₂.operand e f.operandAddress)
    (hmask : (m₁.complete f e).mask = (m₂.complete f e).mask)
    (hdisplacement : (m₁.complete f e).displacement = (m₂.complete f e).displacement) :
    m₁.complete f e = m₂.complete f e := by
  simp only [complete] at hmask hdisplacement ⊢
  rw [hoperand, hmask, hdisplacement]

/-- The bytes behind an opcode determine the instruction. -/
lemma complete_of_trailer (h : (m₁.complete f e).trailer = (m₂.complete f e).trailer) :
    m₁.complete f e = m₂.complete f e := by
  have hlength : (m₁.complete f e).maskBytes.length = (m₂.complete f e).maskBytes.length ∧
      (m₁.complete f e).displacementBytes.length = (m₂.complete f e).displacementBytes.length := by
    simp only [Instruction.maskBytes, Instruction.displacementBytes, complete]
    constructor <;> split <;> rfl
  obtain ⟨hfront, hdisplacement⟩ := List.append_inj' h hlength.2
  obtain ⟨hoperand, hmask⟩ := List.append_inj' hfront hlength.1
  simp only [Instruction.maskBytes, Instruction.displacementBytes, complete] at hmask hdisplacement
  refine complete_ext (operand_of_bytes hoperand) ?_ ?_ <;> simp only [complete]
  · split_ifs at hmask ⊢
    · exact (List.cons.inj hmask).1
    · rfl
  · split_ifs at hdisplacement ⊢
    · exact (List.cons.inj hdisplacement).1
    · rfl

/-! ### Rows and their bytes -/

/-- The bytes of an instruction are those of its opcode and those behind it. -/
lemma readBlock_size (m : Memory) (a : UInt16) (h : (m.fetch a).encoding? = some e) :
    m.readBlock a (m.fetch a).size = (m.fetch a).code ++ (m.complete (m.fetch a) e).trailer := by
  have haddress : a + UInt16.ofNat (m.fetch a).opcodeLength = (m.fetch a).operandAddress := by
    rw [Fetch.operandAddress, address_fetch]
  rw [Fetch.size, h, readBlock_add, readBlock_opcodeLength, trailer_complete h, haddress]
  rfl

/-- The first bytes of a row are those of its opcode. -/
lemma fetch_of_bytes {a b : UInt16} (h : m₂.readBlock b (m₁.row a).size = (m₁.row a).bytes) :
    m₂.fetch b = { m₁.fetch a with address := b } := by
  rw [bytes_row, size_row, Fetch.size, readBlock_add, readBlock_add] at h
  exact fetch_of_readBlock (List.append_inj h (by rw [length_readBlock, length_readBlock])).1

/-- A row depends on its own bytes and on no other. -/
lemma row_congr {a : UInt16} (h : m₂.readBlock a (m₁.row a).size = (m₁.row a).bytes) :
    m₂.row a = m₁.row a := by
  have hfetch : m₂.fetch a = m₁.fetch a := calc
    m₂.fetch a = { m₁.fetch a with address := a } := fetch_of_bytes h
    _ = { m₁.fetch a with address := (m₁.fetch a).address } := by rw [address_fetch]
    _ = m₁.fetch a := rfl
  rw [bytes_row, size_row] at h
  cases he : (m₁.fetch a).encoding? with
  | none => rw [row_eq_of_none he, row_eq_of_none (by rw [hfetch, he]), hfetch, h]
  | some e =>
      have he' : (m₂.fetch a).encoding? = some e := by rw [hfetch, he]
      have htrailer : (m₂.complete (m₁.fetch a) e).trailer =
          (m₁.complete (m₁.fetch a) e).trailer := by
        have hblock := h
        rw [readBlock_size m₁ a he, ← hfetch, readBlock_size m₂ a he', hfetch] at hblock
        exact List.append_cancel_left hblock
      rw [row_eq he, row_eq he', hfetch, complete_of_trailer htrailer, h]

/-- The bytes of a row are not the first bytes of a longer row, wherever that
is. -/
lemma bytes_eq_of_prefix {a b : UInt16} (h : (m₁.row a).bytes <+: (m₂.row b).bytes) :
    (m₁.row a).bytes = (m₂.row b).bytes := by
  obtain ⟨rest, hrest⟩ := h
  have hlength : (m₂.row b).size = (m₁.row a).size + rest.length := by
    have hboth := congrArg List.length hrest
    rw [List.length_append, bytes_row, bytes_row, length_readBlock, length_readBlock] at hboth
    exact hboth.symm
  -- The row begins with the other one's opcode, and so has its size.
  have hblock : m₂.readBlock b (m₁.row a).size = (m₁.row a).bytes := by
    rw [bytes_row m₂, hlength, readBlock_add] at hrest
    exact ((List.append_inj hrest (by rw [bytes_row, length_readBlock, length_readBlock])).1).symm
  have hsize : (m₂.row b).size = (m₁.row a).size := by
    rw [size_row, size_row, fetch_of_bytes hblock]
    rfl
  rw [bytes_row m₂, hsize, hblock]

end Memory

end M68HC11
