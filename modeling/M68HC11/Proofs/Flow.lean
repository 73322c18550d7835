import M68HC11.Proofs.Accesses
import M68HC11.Proofs.Charges
import M68HC11.Proofs.Printed
import M68HC11.Proofs.Rows

/-!
Where a step leads, read off the listed instruction.

* `ListingRow.target?`: the address at the end of the text of a row;
* `Instruction.text_of_branches?` and its siblings say what the operations that
  jump are listed with, `Instruction.pc_effect_of_branches?` and its siblings
  where they lead, and `Processor.pc_step_of_branches?` and its siblings that
  this is the same;
* `Core.step_row` (**execution agrees with the listing**): a step takes the
  cycles that the opcode is charged, ends as the row says, and goes on behind
  the row or at the address that the row prints last.
-/

namespace M68HC11

/-! ### The address that a row prints last -/

/-- The address at the end of the text, if there is one. -/
def ListingRow.target? (row : ListingRow) : Option UInt16 :=
  Text.Hex.readWord? (Text.lastWord row.text.toList)

/-- An address that is printed last is the target of the row. -/
lemma Memory.target?_row {m : Memory} {address : UInt16} {e : Encoding}
    (h : (m.fetch address).encoding? = some e) {front : List Char} {target : UInt16}
    (htext : (m.complete (m.fetch address) e).text = front ++ ' ' :: Text.Hex.markedWord target) :
    (m.row address).target? = some target := by
  rw [row_eq h, ListingRow.target?, String.toList_ofList, htext,
    Text.lastWord_append front (Text.blank_notMem (Text.Hex.isPlain_of_mem_markedWord target)),
    Text.Hex.readWord?_markedWord]

example :
    ((Memory.zero.writeBlock 0x20 [0x13, 0x40, 0x01, 0xFE]).row 0x20).target? = some 0x22 := by
  decide +kernel

/-! ### Modes of the operations that jump -/

namespace Page

variable {page : Page} {opcode : UInt8} {e : Encoding}

/-- The operand of a relative branch is relative. -/
lemma relative_of_branches? (h : page.encoding? opcode = some e) {cc : ConditionCodes}
    {taken : Bool} (hbranch : e.operation.branches? cc = some taken) : e.mode = .relative := by
  have htable : ∀ row ∈ encodings,
      (row.encoding.operation.branches? (.ofByte 0)).isSome → row.encoding.mode = .relative := by
    decide +kernel
  refine htable _ (encoding?_eq_some_iff.mp h) ?_
  obtain ⟨operation, mode, cycles⟩ := e
  cases operation with
  | branch | branchToSubroutine => rfl
  | _ => cases hbranch

end Page

/-! ### Targets, as they are printed and as they are taken -/

namespace Instruction

variable {i : Instruction}

/-- A relative branch is listed with its target. -/
lemma text_of_branches? {cc : ConditionCodes} {taken : Bool} {displacement : UInt8}
    (h : i.encoding.operation.branches? cc = some taken)
    (hoperand : i.operand = .relative displacement) :
    i.text = i.encoding.operation.mnemonic.toList ++
      ' ' :: Text.Hex.markedWord (Word.displace i.next displacement) := by
  obtain ⟨⟨operation, mode, cycles⟩, operand, mask, distance, next⟩ := i
  cases hoperand
  cases operation with
  | branch | branchToSubroutine =>
      simp only [text, maskText, targetText, Operand.text, Operation.hasMask,
        Operation.isBitBranch, Bool.false_eq_true, if_false, List.append_nil]
  | _ => cases h

/-- A relative branch leads to its target if it is taken. -/
lemma pc_effect_of_branches? {r : Registers} (m : Memory) {taken : Bool} {displacement : UInt8}
    (h : i.encoding.operation.branches? r.cc = some taken)
    (hoperand : i.operand = .relative displacement) :
    (i.effect r m).registers.pc = if taken then Word.displace r.pc displacement else r.pc := by
  obtain ⟨⟨operation, mode, cycles⟩, operand, mask, distance, next⟩ := i
  cases hoperand
  cases operation with
  | branch condition =>
      obtain rfl := Option.some.inj h
      simp only [effect, Effect.ofRegisters]
      split <;> rfl
  | branchToSubroutine =>
      obtain rfl := Option.some.inj h
      rfl
  | _ => cases h

/-- A branch on masked bits is listed with its target. -/
lemma text_of_branchOnBits {are : BitState} (h : i.encoding.operation = .branchOnBits are) :
    ∃ front, i.text = front ++ ' ' :: Text.Hex.markedWord (Word.displace i.next i.displacement) :=
  ⟨_, by rw [text, targetText, h]; rfl⟩

/-- A branch on masked bits leads to its target if the bits are as it asks
for. -/
lemma pc_effect_of_branchOnBits {are : BitState} (h : i.encoding.operation = .branchOnBits are)
    (r : Registers) (m : Memory) :
    (i.effect r m).registers.pc =
      if are.test (i.operand.readByte r m).value i.mask then Word.displace r.pc i.displacement
      else r.pc := by
  simp only [effect, h, testBits, Effect.ofReading]
  split <;> rfl

/-- A jump is listed with its operand. -/
lemma text_of_jump (h : i.encoding.operation = .jump ∨ i.encoding.operation = .jumpToSubroutine) :
    i.text = i.encoding.operation.mnemonic.toList ++ i.operand.text i.next := by
  rcases h with h | h <;>
    simp only [text, maskText, targetText, h, Operation.hasMask, Operation.isBitBranch,
      Bool.false_eq_true, if_false, List.append_nil]

/-- A jump leads to its target. -/
lemma pc_effect_of_jump
    (h : i.encoding.operation = .jump ∨ i.encoding.operation = .jumpToSubroutine) (r : Registers)
    (m : Memory) : (i.effect r m).registers.pc = i.jumpTarget r := by
  rcases h with h | h <;> simp only [effect, h] <;> rfl

end Instruction

/-- An operand in memory is read where it is. -/
lemma Operand.value_readByte {o : Operand} {r : Registers} {place : UInt16}
    (h : o.address? r = some place) (m : Memory) : (o.readByte r m).value = m.read place := by
  cases o with
  | direct | extended | indexed =>
      obtain rfl := Option.some.inj h
      rfl
  | _ => cases h

namespace Processor

variable {p : Processor} {e : Encoding}

/-- The program counter after a step is the one that the effect leaves. -/
lemma pc_step (h : p.fetch.encoding? = some e) :
    p.step.processor.registers.pc =
      ((p.memory.complete p.fetch e).effect (advance p.registers p.fetch)
        p.memory).registers.pc := by
  rw [step_eq_execute h]
  rfl

/-- The row at the program counter. -/
def row (p : Processor) : ListingRow := p.memory.row p.registers.pc

/-- An operation that does not jump goes on behind its row. -/
lemma pc_step_of_not_jumps (h : p.fetch.encoding? = some e) (hjumps : e.operation.jumps = false) :
    p.step.processor.registers.pc = p.row.next := by
  rw [pc_step h, Instruction.pc_effect hjumps, row, Memory.next_row]
  rfl

/-- A relative branch leads to the address its row prints, if it is taken. -/
lemma pc_step_of_branches? (h : p.fetch.encoding? = some e) {taken : Bool}
    (hbranch : e.operation.branches? p.registers.cc = some taken) :
    ∃ target, p.row.target? = some target ∧
      p.step.processor.registers.pc = if taken then target else p.row.next := by
  have hoperand : p.memory.operand e p.fetch.operandAddress =
      .relative (p.memory.read p.fetch.operandAddress) := by
    rw [Memory.operand, Page.relative_of_branches? h hbranch]
  refine ⟨_, Memory.target?_row h (Instruction.text_of_branches? hbranch hoperand), ?_⟩
  rw [pc_step h, row, Memory.next_row]
  exact Instruction.pc_effect_of_branches? p.memory hbranch hoperand

/-- A branch on masked bits leads to the address its row prints, if the bits
of the byte it works on are as it asks for. -/
lemma pc_step_of_branchOnBits (h : p.fetch.encoding? = some e) {are : BitState}
    (hbranch : e.operation = .branchOnBits are) :
    ∃ target place, p.row.target? = some target ∧
      p.effectiveAddress? p.fetch e.mode = some place ∧
        p.step.processor.registers.pc =
          if are.test (p.memory.read place) (p.memory.read (p.fetch.operandAddress + 1)) then target
          else p.row.next := by
  have hmask : e.operation.hasMask := by rw [hbranch]; rfl
  obtain ⟨place, hplace⟩ : ∃ place, p.effectiveAddress? p.fetch e.mode = some place := by
    obtain ⟨hmemory, -⟩ := Page.memory_of_hasMask h hmask
    cases hmode : e.mode with
    | direct | extended | indexed => exact ⟨_, rfl⟩
    | _ =>
        rw [hmode] at hmemory
        cases hmemory
  have hvalue := Operand.value_readByte ((p.address?_operand p.fetch e).trans hplace) p.memory
  obtain ⟨front, htext⟩ :=
    Instruction.text_of_branchOnBits (i := p.memory.complete p.fetch e) hbranch
  refine ⟨_, place, Memory.target?_row h htext, hplace, ?_⟩
  rw [pc_step h, row, Memory.next_row, Instruction.pc_effect_of_branchOnBits hbranch]
  simp only [Memory.complete, hvalue, hmask, if_true]
  rfl

/-- A jump to an address that is part of the instruction leads to the one its
row prints. -/
lemma pc_step_of_jump (h : p.fetch.encoding? = some e)
    (hjump : e.operation = .jump ∨ e.operation = .jumpToSubroutine)
    (hmode : e.mode = .direct ∨ e.mode = .extended) :
    p.row.target? = some p.step.processor.registers.pc := by
  rw [pc_step h, Instruction.pc_effect_of_jump hjump]
  refine Memory.target?_row h ((Instruction.text_of_jump hjump).trans (congrArg _ ?_))
  obtain ⟨operation, mode, cycles⟩ := e
  rcases hmode with rfl | rfl <;> rfl

/-- A step reports an opcode exactly if its row is marked as not assigned. -/
lemma retirement_step_iff (p : Processor) :
    (∃ fault cycles, p.step.retirement = .invalidOpcode fault cycles) ↔
      p.row.isInvalid = true := by
  rw [row, Memory.isInvalid_row]
  change _ ↔ p.fetch.encoding?.isNone = true
  cases h : p.fetch.encoding? with
  | none =>
      rw [step_eq_skip h]
      exact ⟨fun _ => rfl, fun _ => ⟨_, _, rfl⟩⟩
  | some e =>
      rw [step_eq_execute h]
      constructor
      · rintro ⟨fault, cycles, hretirement⟩
        cases hretirement
      · intro hnone
        cases hnone

/-- The step over an opcode that is not assigned changes no more than it has
to, and accesses no data. -/
lemma step_of_isInvalid {p : Processor} (h : p.row.isInvalid = true) :
    p.step.processor = { p with
      registers := { p.registers with
        pc := p.row.next
        lastPc := p.registers.pc
        cycles := p.registers.cycles + UInt64.ofNat p.step.retirement.cycles } } ∧
      p.step.accesses = [] := by
  have hnone : p.fetch.encoding? = none := by
    rw [row, Memory.isInvalid_row] at h
    exact Option.isNone_iff_eq_none.mp h
  rw [row, Memory.next_row, step_eq_skip hnone]
  exact ⟨rfl, rfl⟩

/-- A step remembers the address of its instruction. -/
lemma lastPc_step (p : Processor) : p.step.processor.registers.lastPc = p.registers.pc := by
  cases h : p.fetch.encoding? with
  | none => rw [step_eq_skip h]; rfl
  | some e =>
      rw [step_eq_execute h]
      exact (Instruction.counters_effect _ _ _).1

end Processor

namespace Core

/-- **Execution agrees with the listing**: a step from a state with the program
counter at an instruction ends as the row of the instruction says: an opcode is
reported as not assigned exactly if the row is marked so, which includes the
opcodes that have only a name. The step takes the cycles that the opcode is
charged and remembers the address. An opcode that is not assigned changes
nothing else but the program counter, which goes on behind the row. So does an
operation that does not jump. A relative branch and a branch on masked bits go
to the address that is printed last, if they are taken, and behind the row
otherwise; a jump to an address that is part of the instruction goes to the
one that is printed. -/
theorem step_row (c : Core) :
    let row := c.memory.row c.registers.pc
    let f := c.memory.fetch c.registers.pc
    let next := c.registers.pc + UInt16.ofNat row.size
    let charged := f.page.charged f.opcode
    let after := c.step.core
    ((∃ fault cycles, c.step.retirement = .invalidOpcode fault cycles) ↔ row.isInvalid = true) ∧
      (∀ system, f.page.systemOpcode? f.opcode = some system →
        row.isInvalid = true ∧ row.text = system.mnemonic) ∧
      c.step.retirement.cycles = charged ∧
      after.registers.cycles = c.registers.cycles + UInt64.ofNat charged ∧
      after.registers.lastPc = c.registers.pc ∧
      (row.isInvalid = true → after = c.putRegisters
        { c.registers with
          pc := next
          lastPc := c.registers.pc
          cycles := c.registers.cycles + UInt64.ofNat charged }) ∧
      ∀ e, f.encoding? = some e →
        (e.operation.jumps = false → after.registers.pc = next) ∧
        (∀ taken, e.operation.branches? c.registers.cc = some taken →
          ∃ target, row.target? = some target ∧
            after.registers.pc = if taken then target else next) ∧
        (∀ are, e.operation = .branchOnBits are →
          ∃ target place, row.target? = some target ∧
            c.processor.effectiveAddress? f e.mode = some place ∧
              after.registers.pc =
                if are.test (c.memory.read place) (c.memory.read (f.operandAddress + 1)) then target
                else next) ∧
        (e.operation = .branchToSubroutine → row.target? = some after.registers.pc) ∧
        (e.operation = .jump ∨ e.operation = .jumpToSubroutine →
          e.mode = .direct ∨ e.mode = .extended → row.target? = some after.registers.pc) := by
  intro row f next charged after
  obtain ⟨p, traps⟩ := c
  have hnext : p.row.next = next := by rw [ListingRow.next, Processor.row, Memory.address_row]; rfl
  have hcycles : p.step.retirement.cycles = charged := p.retirement_cycles_step
  rw [← hnext]
  refine ⟨p.retirement_step_iff, fun _ => Memory.row_of_systemOpcode?, hcycles, ?_, p.lastPc_step,
    fun hinvalid => ?_, fun e he => ⟨Processor.pc_step_of_not_jumps he,
      fun _ => Processor.pc_step_of_branches? he, fun _ => Processor.pc_step_of_branchOnBits he,
      fun hcall => ?_, Processor.pc_step_of_jump he⟩⟩
  · rw [← hcycles]
    exact p.cycles_step
  · obtain ⟨hprocessor, haccesses⟩ := Processor.step_of_isInvalid hinvalid
    rw [← hcycles]
    simp only [after, step, haccesses, hprocessor]
    rfl
  · have htaken : e.operation.branches? p.registers.cc = some true := by rw [hcall]; rfl
    obtain ⟨target, htarget, hpc⟩ := Processor.pc_step_of_branches? he htaken
    rw [if_pos rfl] at hpc
    rw [← hpc] at htarget
    exact htarget

end Core

end M68HC11
