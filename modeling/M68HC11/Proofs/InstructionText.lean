import M68HC11.Proofs.Encoded
import M68HC11.Proofs.Printed
import Mathlib.Data.List.Nodup

/-!
What the text of an instruction tells of its bytes.

* `Encoding.stem` and `Encoding.marks`: the name that the text begins with, and
  its characters that are neither small letters nor digits; both are read off
  the text (`Memory.takeWhile_text`, `Memory.marks_text`);
* `OpcodeRow.eq_of_text`: together with the size they tell the opcodes apart;
* `Memory.complete_of_text`: for one opcode the text determines the
  instruction;
* `Memory.row_faithful` (**a listing is local and loses nothing**): a row
  depends on its own bytes alone, rows at one address with the same text and
  size have the same bytes, and the bytes of a row are never the first bytes of
  a longer one.
-/

namespace M68HC11

/-- Displacements of one address are told apart by where they lead. -/
lemma Word.displace_inj {base : UInt16} {d d' : UInt8} (h : displace base d = displace base d') :
    d = d' := by
  have hlow (b : UInt8) : low (signExtend b) = b := by
    rw [low, signExtend]
    split_ifs <;> simp
  rw [← hlow d, (UInt16.add_right_inj base).mp h, hlow d']

/-! ### Names and marks -/

/-- The letter that the mode adds to the mnemonic. -/
def Mode.suffix : Mode → String
  | accumulator r => r.suffix
  | _ => ""

/-- The characters of an operand that are neither small letters nor digits. -/
def Mode.marks : Mode → List Char
  | inherent | accumulator _ => []
  | immediate => [' ', '#']
  | direct | extended | relative => [' ']
  | indexed .x => [' ', ',', 'X']
  | indexed .y => [' ', ',', 'Y']

namespace Encoding

/-- The name that the text of an instruction begins with. -/
def stem (e : Encoding) : String := e.operation.mnemonic ++ e.mode.suffix

/-- The characters of the text that are neither small letters nor digits. -/
def marks (e : Encoding) : List Char :=
  e.mode.marks ++ (if e.operation.hasMask then [' ', '#'] else []) ++
    (if e.operation.isBitBranch then [' '] else [])

end Encoding

/-- Mnemonics have small letters only. -/
lemma Operation.isPlain_of_mem_mnemonic (operation : Operation) :
    ∀ c ∈ operation.mnemonic.toList, Text.isPlain c = true := by
  refine List.all_eq_true.mp ?_
  cases operation with
  | accumulate op r => cases op <;> cases r <;> rfl
  | pair op | modify op => cases op <;> rfl
  | store r | copy r | push r | pull r => cases r <;> rfl
  | putBits state | branchOnBits state => cases state <;> rfl
  | compareIndex r | addToIndex r | exchange r | pushIndex r | pullIndex r | stackToIndex r
  | indexToStack r => cases r <;> rfl
  | loadWord r | storeWord r => cases r <;> rfl
  | stepIndex direction r => cases direction <;> cases r <;> rfl
  | stepStack direction | shiftWord direction => cases direction <;> rfl
  | divide kind => cases kind <;> rfl
  | branch condition => cases condition <;> rfl
  | putFlag flag state => cases flag <;> cases state <;> rfl
  | _ => rfl

/-- So has the letter of a mode. -/
lemma Mode.isPlain_of_mem_suffix (mode : Mode) :
    ∀ c ∈ mode.suffix.toList, Text.isPlain c = true := by
  refine List.all_eq_true.mp ?_
  cases mode with
  | accumulator r => cases r <;> rfl
  | _ => rfl

/-! ### Opcodes, told apart by their texts -/

namespace OpcodeRow

/-- The size of the instructions that the row is about. -/
def size (row : OpcodeRow) : Nat := row.page.prebyteLength + 1 + row.encoding.operandLength

/-- A checksum of the name that texts of the row begin with, of their marks and
of the size. The name is summed byte by byte, so that no text has to be decoded
to compute it. -/
def textSum (row : OpcodeRow) : Nat :=
  row.encoding.marks.foldl (fun sum c => (sum * 31 + c.toNat) % 65537)
    (row.encoding.stem.toByteArray.data.toList.foldl (fun sum b => (sum * 31 + b.toNat) % 65537)
      row.size)

/-- The rows of the instruction set have different checksums. -/
lemma nodup_textSum : (encodings.map textSum).Nodup :=
  (Page.nodup_of_distinctFrom
    (show Page.distinctFrom 0 (encodings.map textSum) from by decide +kernel)).1

/-- Name, marks and size tell the rows of the instruction set apart. -/
lemma eq_of_text {row₁ row₂ : OpcodeRow} (h₁ : row₁ ∈ encodings) (h₂ : row₂ ∈ encodings)
    (hstem : row₁.encoding.stem = row₂.encoding.stem)
    (hmarks : row₁.encoding.marks = row₂.encoding.marks) (hsize : row₁.size = row₂.size) :
    row₁ = row₂ := by
  have hsum : row₁.textSum = row₂.textSum := by rw [textSum, textSum, hstem, hmarks, hsize]
  exact List.inj_on_of_nodup_map nodup_textSum h₁ h₂ hsum

end OpcodeRow

namespace Memory

variable {m m₁ m₂ : Memory} {e : Encoding} {f : Fetch} {a : UInt16}

/-! ### Name and marks, read off the text -/

/-- The text of an instruction begins with its name, which a blank follows if
anything does. -/
lemma text_complete (m : Memory) (f : Fetch) (e : Encoding) :
    ∃ rest, (m.complete f e).text = e.stem.toList ++ rest ∧ rest.takeWhile (· ≠ ' ') = [] := by
  have htail : ((m.complete f e).maskText ++ (m.complete f e).targetText).takeWhile (· ≠ ' ') =
      [] := by
    rw [Instruction.maskText, Instruction.targetText]
    split_ifs <;> rfl
  obtain ⟨operation, mode, cycles⟩ := e
  rw [Instruction.text, Encoding.stem, String.toList_append, List.append_assoc, List.append_assoc]
  cases mode with
  | inherent | accumulator => exact ⟨_, by rw [List.append_assoc]; rfl, htail⟩
  | immediate =>
      refine ⟨_, by rw [List.append_assoc]; rfl, ?_⟩
      simp only [complete, operand]
      split <;> rfl
  | direct | extended | indexed | relative => exact ⟨_, by rw [List.append_assoc]; rfl, rfl⟩

/-- The name of an instruction has small letters only. -/
lemma isPlain_of_mem_stem (e : Encoding) : ∀ c ∈ e.stem.toList, Text.isPlain c = true := by
  intro c hc
  rw [Encoding.stem, String.toList_append, List.mem_append] at hc
  rcases hc with hmnemonic | hsuffix
  · exact e.operation.isPlain_of_mem_mnemonic c hmnemonic
  · exact e.mode.isPlain_of_mem_suffix c hsuffix

/-- The name of an instruction is read off its text. -/
lemma takeWhile_text (m : Memory) (f : Fetch) (e : Encoding) :
    (m.complete f e).text.takeWhile (· ≠ ' ') = e.stem.toList := by
  obtain ⟨rest, htext, hrest⟩ := m.text_complete f e
  have hstem : ∀ c ∈ e.stem.toList, decide (c ≠ ' ') = true := fun c hc =>
    decide_eq_true fun hblank => Text.blank_notMem (isPlain_of_mem_stem e) (hblank ▸ hc)
  rw [htext, List.takeWhile_append_of_pos hstem, hrest, List.append_nil]

/-- The marks of an operand are read off its text. -/
lemma marks_operand (m : Memory) (e : Encoding) (a next : UInt16) :
    Text.marks ((m.operand e a).text next) = e.mode.marks := by
  have hbyte (b : UInt8) := Text.marks_eq_nil (Text.Hex.isPlain_of_mem_markedByte b)
  have hword (w : UInt16) := Text.marks_eq_nil (Text.Hex.isPlain_of_mem_markedWord w)
  have hnumber (n : Nat) := Text.marks_eq_nil (Text.isPlain_of_mem_toDigits (n := n))
  obtain ⟨operation, mode, cycles⟩ := e
  cases mode with
  | inherent => rfl
  | accumulator r => cases r <;> rfl
  | immediate =>
      simp only [operand]
      split
      · exact (Text.marks_append _ _).trans (congrArg (Text.marks " #".toList ++ ·) (hword _))
      · exact (Text.marks_append _ _).trans (congrArg (Text.marks " #".toList ++ ·) (hbyte _))
  | direct | extended | relative => exact congrArg (' ' :: ·) (hword _)
  | indexed r =>
      have hoffset (n : Nat) : Text.marks (' ' :: Nat.toDigits 10 n) = [' '] :=
        congrArg (' ' :: ·) (hnumber n)
      refine (Text.marks_append _ _).trans ?_
      rw [hoffset]
      cases r <;> rfl

/-- The marks of an instruction are read off its text. -/
lemma marks_text (m : Memory) (f : Fetch) (e : Encoding) :
    Text.marks (m.complete f e).text = e.marks := by
  have hmnemonic : Text.marks (m.complete f e).encoding.operation.mnemonic.toList = [] :=
    Text.marks_eq_nil e.operation.isPlain_of_mem_mnemonic
  have hoperand : Text.marks ((m.complete f e).operand.text (m.complete f e).next) = e.mode.marks :=
    m.marks_operand e f.operandAddress f.next
  have hmask : Text.marks (m.complete f e).maskText =
      if e.operation.hasMask then [' ', '#'] else [] := by
    simp only [Instruction.maskText, complete]
    split
    · rw [Text.marks_append, Text.marks_eq_nil (Text.Hex.isPlain_of_mem_markedByte _)]
      rfl
    · rfl
  have htarget : Text.marks (m.complete f e).targetText =
      if e.operation.isBitBranch then [' '] else [] := by
    simp only [Instruction.targetText, complete]
    split
    · exact congrArg (' ' :: ·) (Text.marks_eq_nil (Text.Hex.isPlain_of_mem_markedWord _))
    · rfl
  rw [Instruction.text, Text.marks_append, Text.marks_append, Text.marks_append, hmnemonic,
    hoperand, hmask, htarget]
  rfl

/-! ### Operands, read off the text -/

/-- The text of an operand determines it, whatever follows. -/
lemma operand_of_text {next : UInt16} {s t : List Char}
    (h : (m₁.operand e a).text next ++ s = (m₂.operand e a).text next ++ t) :
    m₁.operand e a = m₂.operand e a ∧ s = t := by
  obtain ⟨operation, mode, cycles⟩ := e
  cases mode with
  | inherent | accumulator => exact ⟨rfl, List.append_cancel_left h⟩
  | immediate =>
      simp only [operand] at h ⊢
      cases hwide : operation.isWide with
      | false =>
          simp only [hwide, Bool.false_eq_true, if_false, Operand.text, List.append_assoc] at h ⊢
          obtain ⟨hvalue, hrest⟩ := Text.Hex.markedByte_append_inj (List.append_cancel_left h)
          exact ⟨congrArg Operand.byte hvalue, hrest⟩
      | true =>
          simp only [hwide, if_true, Operand.text, List.append_assoc] at h ⊢
          obtain ⟨hvalue, hrest⟩ := Text.Hex.markedWord_append_inj (List.append_cancel_left h)
          exact ⟨congrArg Operand.word hvalue, hrest⟩
  | direct =>
      obtain ⟨haddress, hrest⟩ := Text.Hex.markedWord_append_inj (List.cons.inj h).2
      exact ⟨congrArg Operand.direct (UInt8.toUInt16_inj.mp haddress), hrest⟩
  | extended =>
      obtain ⟨haddress, hrest⟩ := Text.Hex.markedWord_append_inj (List.cons.inj h).2
      exact ⟨congrArg Operand.extended haddress, hrest⟩
  | indexed r =>
      simp only [operand, Operand.text, List.cons_append, List.append_assoc] at h ⊢
      obtain ⟨hoffset, hrest⟩ := Text.toDigits_append_inj (List.cons.inj h).2
      exact ⟨congrArg (Operand.indexed r) (UInt8.toNat_inj.mp hoffset),
        List.append_cancel_left hrest⟩
  | relative =>
      obtain ⟨htarget, hrest⟩ := Text.Hex.markedWord_append_inj (List.cons.inj h).2
      exact ⟨congrArg Operand.relative (Word.displace_inj htarget), hrest⟩

/-- The text of a mask determines it, whatever follows. -/
lemma mask_of_text {s t : List Char}
    (h : (m₁.complete f e).maskText ++ s = (m₂.complete f e).maskText ++ t) :
    (m₁.complete f e).mask = (m₂.complete f e).mask ∧ s = t := by
  simp only [Instruction.maskText, complete] at h ⊢
  split_ifs at h ⊢
  · rw [List.append_assoc, List.append_assoc] at h
    exact Text.Hex.markedByte_append_inj (List.append_cancel_left h)
  · exact ⟨rfl, h⟩

/-- The text of a target determines the displacement. -/
lemma displacement_of_text (h : (m₁.complete f e).targetText = (m₂.complete f e).targetText) :
    (m₁.complete f e).displacement = (m₂.complete f e).displacement := by
  simp only [Instruction.targetText, complete] at h ⊢
  split_ifs at h ⊢
  · have htarget := congrArg (· ++ []) (List.cons.inj h).2
    exact Word.displace_inj (Text.Hex.markedWord_append_inj htarget).1
  · rfl

/-- The text of an instruction determines it, for one opcode. -/
lemma complete_of_text (h : (m₁.complete f e).text = (m₂.complete f e).text) :
    m₁.complete f e = m₂.complete f e := by
  simp only [Instruction.text, List.append_assoc] at h
  obtain ⟨hoperand, hrest⟩ := operand_of_text (List.append_cancel_left h)
  obtain ⟨hmask, htarget⟩ := mask_of_text hrest
  exact complete_ext hoperand hmask (displacement_of_text htarget)

/-- Opcodes at one address are the same if the instructions they begin have
the same text and size. -/
lemma fetch_of_text {e₁ e₂ : Encoding} (h₁ : (m₁.fetch a).encoding? = some e₁)
    (h₂ : (m₂.fetch a).encoding? = some e₂)
    (htext : (m₁.complete (m₁.fetch a) e₁).text = (m₂.complete (m₂.fetch a) e₂).text)
    (hsize : (m₁.fetch a).size = (m₂.fetch a).size) :
    m₁.fetch a = m₂.fetch a ∧ e₁ = e₂ := by
  have hstem : e₁.stem = e₂.stem := by
    apply String.toList_inj.mp
    rw [← takeWhile_text m₁ (m₁.fetch a), htext, takeWhile_text]
  have hmarks : e₁.marks = e₂.marks := by
    rw [← marks_text m₁ (m₁.fetch a), htext, marks_text]
  have hrowSize : OpcodeRow.size ⟨(m₁.fetch a).page, (m₁.fetch a).opcode, e₁⟩ =
      OpcodeRow.size ⟨(m₂.fetch a).page, (m₂.fetch a).opcode, e₂⟩ := by
    rw [Fetch.size, Fetch.size, h₁, h₂] at hsize
    exact hsize
  have hrow := OpcodeRow.eq_of_text (Page.encoding?_eq_some_iff.mp h₁)
    (Page.encoding?_eq_some_iff.mp h₂) hstem hmarks hrowSize
  rw [OpcodeRow.mk.injEq] at hrow
  obtain ⟨hpage, hopcode, hencoding⟩ := hrow
  have haddress : (m₁.fetch a).address = (m₂.fetch a).address := by
    rw [address_fetch, address_fetch]
  refine ⟨?_, hencoding⟩
  calc m₁.fetch a = ⟨(m₁.fetch a).address, (m₁.fetch a).page, (m₁.fetch a).opcode⟩ := rfl
    _ = ⟨(m₂.fetch a).address, (m₂.fetch a).page, (m₂.fetch a).opcode⟩ := by
        rw [haddress, hpage, hopcode]
    _ = m₂.fetch a := rfl

/-- Rows at one address of assigned opcodes with the same text and size have
the same bytes. -/
lemma bytes_of_text (h₁ : (m₁.row a).isInvalid = false) (h₂ : (m₂.row a).isInvalid = false)
    (htext : (m₁.row a).text = (m₂.row a).text) (hsize : (m₁.row a).size = (m₂.row a).size) :
    (m₁.row a).bytes = (m₂.row a).bytes := by
  rw [isInvalid_row, Option.isNone_eq_false_iff, Option.isSome_iff_exists] at h₁ h₂
  obtain ⟨e₁, he₁⟩ := h₁
  obtain ⟨e₂, he₂⟩ := h₂
  rw [row_eq he₁, row_eq he₂] at htext hsize ⊢
  have htext' := String.ofList_injective htext
  obtain ⟨hfetch, rfl⟩ := fetch_of_text he₁ he₂ htext' hsize
  have hcomplete : m₁.complete (m₁.fetch a) e₁ = m₂.complete (m₁.fetch a) e₁ := by
    rw [← hfetch] at htext'
    exact complete_of_text htext'
  change m₁.readBlock a (m₁.fetch a).size = m₂.readBlock a (m₂.fetch a).size
  rw [readBlock_size m₁ a he₁, readBlock_size m₂ a he₂, ← hfetch, hcomplete]

/-- **A listing is local and loses nothing**: if two memories agree on the
bytes of a row, the row is the same in both; if two rows at one address are of
assigned opcodes and have the same text and size, they have the same bytes; and
the bytes of a row are not the first bytes of a longer row, wherever that
is. -/
theorem row_faithful (m₁ m₂ : Memory) (a : UInt16) :
    ((∀ i < (m₁.row a).size, m₁.read (a + UInt16.ofNat i) = m₂.read (a + UInt16.ofNat i)) →
      m₂.row a = m₁.row a) ∧
      ((m₁.row a).isInvalid = false → (m₂.row a).isInvalid = false →
        (m₁.row a).text = (m₂.row a).text → (m₁.row a).size = (m₂.row a).size →
          (m₁.row a).bytes = (m₂.row a).bytes) ∧
      ∀ b, (m₁.row a).bytes <+: (m₂.row b).bytes → (m₁.row a).bytes = (m₂.row b).bytes := by
  refine ⟨fun hagree => row_congr ?_, bytes_of_text, fun b => bytes_eq_of_prefix⟩
  rw [bytes_row]
  exact (readBlock_congr hagree).symm

end Memory

end M68HC11
