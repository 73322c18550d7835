import M68HC11.Proofs.Flow

/-!
What a step warns about.

Addresses wrap around nearly everywhere without a word. A warning comes from two
places only, the offset from an index register and the second byte of a word of
data, and from opcodes that are not assigned.

* `Processor.Warns` names the three causes, each with what it reports;
* `Traffic.faults` and `Processor.offsetFaults` are the faults of the two places,
  read off the opcode, the bytes behind it and the registers;
  `Processor.faults_step`: a step has these faults, those of the offset first;
* `Processor.offsetFaults_eq_nil_or`: an offset past the last address leads too
  far from it for the operand to be a word that wraps around;
* `Core.step_warnings` (**warnings are exact**) puts them together.
-/

namespace M68HC11

/-! ### Addresses past the last one -/

lemma mem_overrun_iff {base : UInt16} {distance : Nat} {fault : Fault} :
    fault ∈ overrun base distance ↔
      65536 ≤ base.toNat + distance ∧ fault = .addressOutOfRange (base.toNat + distance) := by
  unfold overrun
  split <;> simp <;> omega

lemma length_overrun_le (base : UInt16) (distance : Nat) : (overrun base distance).length ≤ 1 := by
  unfold overrun
  split <;> simp

/-- The only word that wraps around is the one at the last address. -/
lemma mem_overrun_one_iff {ea : UInt16} {fault : Fault} :
    fault ∈ overrun ea 1 ↔ ea = 0xFFFF ∧ fault = .addressOutOfRange 65536 := by
  have hlast : 65536 ≤ ea.toNat + 1 ↔ ea = 0xFFFF := by
    have hlt := ea.toNat_lt
    rw [← UInt16.toNat_inj, show (0xFFFF : UInt16).toNat = 65535 from rfl]
    omega
  rw [mem_overrun_iff, hlast]
  exact and_congr_right fun hea => by rw [hea]; rfl

/-! ### The causes of warnings -/

/-- Whether a word of data is read or written. -/
def Traffic.isWord : Traffic → Prop
  | readWord | writeWord => True
  | _ => False

namespace Processor

/-- Where the offset behind an opcode leads from an index register, before the
address wraps around. -/
def reach (p : Processor) (f : Fetch) (r : IndexRegister) : Nat :=
  (p.registers.index r).toNat + (p.memory.read f.operandAddress).toNat

/-- What a step warns about. -/
inductive Warns (p : Processor) : Fault → Prop
  /-- The opcode is not assigned. -/
  | invalidOpcode (h : p.fetch.encoding? = none) :
    p.Warns (.invalidOpcode p.fetch.page p.fetch.opcode p.registers.pc)
  /-- The offset leads past the last address, whatever it is used for. -/
  | offset {e : Encoding} {r : IndexRegister} (h : p.fetch.encoding? = some e)
    (hmode : e.mode = .indexed r) (hreach : 65536 ≤ p.reach p.fetch r) :
    p.Warns (.addressOutOfRange (p.reach p.fetch r))
  /-- The first byte of a word of data is the one at the last address. -/
  | word {e : Encoding} (h : p.fetch.encoding? = some e) (hword : e.operation.traffic.isWord)
    (hlast : p.effectiveAddress? p.fetch e.mode = some 0xFFFF) :
    p.Warns (.addressOutOfRange 65536)

end Processor

/-! ### The faults that an effect has -/

/-- The faults of an operand at the effective address `place`. -/
def Traffic.faults (t : Traffic) (place : Option UInt16) : List Fault :=
  match t, place with
  | readWord, some ea | writeWord, some ea => overrun ea 1
  | _, _ => []

/-- The fault of a word is that of its second byte. -/
lemma Traffic.mem_faults_iff {t : Traffic} {place : Option UInt16} {fault : Fault} :
    fault ∈ t.faults place ↔
      t.isWord ∧ place = some 0xFFFF ∧ fault = .addressOutOfRange 65536 := by
  cases place with
  | none => cases t <;> simp [faults]
  | some ea => cases t <;> simp [faults, isWord, mem_overrun_one_iff]

lemma Traffic.length_faults_le (t : Traffic) (place : Option UInt16) :
    (t.faults place).length ≤ 1 := by
  unfold faults
  split <;> simp [length_overrun_le]

namespace Operand

/-- Reading a byte has no faults. -/
lemma faults_readByte (o : Operand) (r : Registers) (m : Memory) :
    (o.readByte r m).faults = [] := by
  cases o <;> rfl

/-- Reading a word has the fault of its second byte, if the operand is in
memory. -/
lemma faults_readWord (o : Operand) (r : Registers) (m : Memory) :
    (o.readWord r m).faults = Traffic.readWord.faults (o.address? r) := by
  cases o <;> rfl

end Operand

namespace Effect

@[simp] lemma faults_ofReading {α : Type} (v : Reading α) (r : Registers) :
    (ofReading v r).faults = v.faults := rfl

/-- Replacing a byte has no faults. -/
@[simp] lemma faults_putByte (e : Effect) (o : Operand) (r : Registers) (value : UInt8) :
    (e.putByte o r value).faults = e.faults := by
  cases o <;> rfl

/-- Replacing a word in memory has the fault of its second byte. -/
@[simp] lemma faults_putWord (e : Effect) (o : Operand) (r : Registers) (value : UInt16) :
    (e.putWord o r value).faults = e.faults ++ Traffic.writeWord.faults (o.address? r) := by
  cases o <;> simp [putWord, writeWord, Operand.address?, Traffic.faults]

end Effect

namespace Instruction

/-- Changing a byte in place has no faults. -/
lemma faults_change (i : Instruction) (op : Modification) (r : Registers) (m : Memory) :
    (i.change op r m).faults = [] := by
  have hread : (if op = .clear then Reading.ofValue 0 else i.operand.readByte r m).faults = [] := by
    split
    · rfl
    · exact Operand.faults_readByte ..
  simp only [change]
  split
  · exact (Effect.faults_putByte ..).trans hread
  · exact hread

/-- Every instruction has the faults of its operation's row. The cases are those
of the operation; what uses no word of data has none. -/
lemma faults_effect (i : Instruction) (r : Registers) (m : Memory) :
    (i.effect r m).faults = i.encoding.operation.traffic.faults (i.operand.address? r) := by
  obtain ⟨⟨operation, mode, cycles⟩, operand, mask, displacement, next⟩ := i
  cases operation with
  | accumulate op which => exact Operand.faults_readByte ..
  | store which => exact Effect.faults_putByte ..
  | modify op =>
      refine (faults_change _ op r m).trans ?_
      cases op <;> rfl
  | putBits state => exact (Effect.faults_putByte ..).trans (Operand.faults_readByte ..)
  | branchOnBits are => exact Operand.faults_readByte ..
  | addWord | subtractWord | compareWord | compareIndex | loadWord =>
      exact Operand.faults_readWord ..
  | storeWord which => exact Effect.faults_putWord ..
  | _ => rfl

end Instruction

/-! ### Words of data -/

/-- A word in memory is read where it is. -/
lemma Operand.value_readWord {o : Operand} {r : Registers} {ea : UInt16}
    (h : o.address? r = some ea) (m : Memory) : (o.readWord r m).value = m.readWord ea := by
  cases o with
  | direct | extended | indexed =>
      obtain rfl := Option.some.inj h
      rfl
  | _ => cases h

/-- An instruction that reads a word of data does to the registers what it does
with that word as part of the instruction. -/
lemma Instruction.registers_effect_of_readWord {i : Instruction} {r : Registers} {ea : UInt16}
    (h : i.encoding.operation.traffic = .readWord) (hea : i.operand.address? r = some ea)
    (m : Memory) :
    (i.effect r m).registers =
      ({ i with operand := .word (m.readWord ea) }.effect r m).registers := by
  have hvalue := Operand.value_readWord hea m
  obtain ⟨⟨operation, mode, cycles⟩, operand, mask, displacement, next⟩ := i
  cases operation with
  | addWord | subtractWord | compareWord | compareIndex | loadWord =>
      simp only [effect, Effect.ofReading] at hvalue ⊢
      rw [hvalue]
      rfl
  | modify op => cases op <;> cases h
  | _ => cases h

/-! ### The faults that a step has -/

namespace Processor

variable {p : Processor} {f : Fetch} {e : Encoding}

/-- The faults of an offset from an index register. -/
def offsetFaults (p : Processor) (f : Fetch) : Mode → List Fault
  | .indexed r => overrun (p.registers.index r) (p.memory.read f.operandAddress).toNat
  | _ => []

/-- An offset has a fault if it leads past the last address. -/
lemma mem_offsetFaults_iff {mode : Mode} {fault : Fault} :
    fault ∈ p.offsetFaults f mode ↔
      ∃ r, mode = .indexed r ∧ 65536 ≤ p.reach f r ∧ fault = .addressOutOfRange (p.reach f r) := by
  cases mode with
  | indexed r =>
      refine mem_overrun_iff.trans ⟨fun h => ⟨r, rfl, h⟩, ?_⟩
      rintro ⟨_, ⟨⟩, h⟩
      exact h
  | _ => simp [offsetFaults]

lemma length_offsetFaults_le (p : Processor) (f : Fetch) (mode : Mode) :
    (p.offsetFaults f mode).length ≤ 1 := by
  unfold offsetFaults
  split <;> simp [length_overrun_le]

/-- The operand that was decoded has the faults of its offset. -/
lemma faults_operand (p : Processor) (f : Fetch) (e : Encoding) :
    (p.memory.operand e f.operandAddress).faults (advance p.registers f) =
      p.offsetFaults f e.mode := by
  obtain ⟨operation, mode, cycles⟩ := e
  cases mode with
  | immediate =>
      simp only [Memory.operand]
      split <;> rfl
  | indexed r => cases r <;> rfl
  | _ => rfl

/-- A step of an assigned opcode has the faults of its offset and of its data, in
this order. -/
lemma faults_step (h : p.fetch.encoding? = some e) :
    p.step.faults = p.offsetFaults p.fetch e.mode ++
      e.operation.traffic.faults (p.effectiveAddress? p.fetch e.mode) := by
  rw [step_eq_execute h]
  simp only [execute, Instruction.faults_effect, Memory.complete, address?_operand, faults_operand]

/-- The address that an offset leads to. -/
lemma effectiveAddress?_indexed (p : Processor) (f : Fetch) (r : IndexRegister) :
    p.effectiveAddress? f (.indexed r) = some (UInt16.ofNat (p.reach f r)) := by
  rw [effectiveAddress?, reach, UInt16.ofNat_add, UInt16.ofNat_toNat, UInt16.ofNat_uInt8ToNat]

/-- An offset past the last address leads at most to address 254. -/
lemma ofNat_reach_ne_last {r : IndexRegister} (h : 65536 ≤ p.reach f r) :
    UInt16.ofNat (p.reach f r) ≠ 0xFFFF := by
  have hbase := (p.registers.index r).toNat_lt
  have hoffset := (p.memory.read f.operandAddress).toNat_lt
  intro hlast
  have hmod : p.reach f r % 65536 = 65535 := by
    rw [← UInt16.toNat_ofNat', hlast]
    rfl
  unfold reach at h hmod
  omega

/-- An offset past the last address and a word that wraps around exclude each
other. -/
lemma offsetFaults_eq_nil_or (p : Processor) (f : Fetch) (mode : Mode) (t : Traffic) :
    p.offsetFaults f mode = [] ∨ t.faults (p.effectiveAddress? f mode) = [] := by
  rw [or_iff_not_imp_left]
  intro hoffset
  obtain ⟨fault, hfault⟩ := List.exists_mem_of_ne_nil _ hoffset
  obtain ⟨r, rfl, hreach, -⟩ := mem_offsetFaults_iff.mp hfault
  refine List.eq_nil_iff_forall_not_mem.mpr fun other hother => ?_
  obtain ⟨-, hlast, -⟩ := Traffic.mem_faults_iff.mp hother
  rw [effectiveAddress?_indexed] at hlast
  exact ofNat_reach_ne_last hreach (Option.some.inj hlast)

/-- The faults of a step are what it warns about. -/
lemma mem_faults_step_iff {fault : Fault} :
    fault ∈ p.step.faults ↔ p.Warns fault := by
  cases h : p.fetch.encoding? with
  | none =>
      have hinvalid : p.fetch.invalidOpcode =
          .invalidOpcode p.fetch.page p.fetch.opcode p.registers.pc := by
        rw [Fetch.invalidOpcode, fetch, Memory.address_fetch]
      rw [step_eq_skip h, skip, hinvalid, List.mem_singleton]
      constructor
      · rintro rfl
        exact .invalidOpcode h
      · rintro (h' | ⟨h', -, -⟩ | ⟨h', -, -⟩)
        · rfl
        all_goals exact absurd (h.symm.trans h') (by simp)
  | some e =>
      rw [faults_step h, List.mem_append, mem_offsetFaults_iff, Traffic.mem_faults_iff]
      constructor
      · rintro (⟨r, hmode, hreach, rfl⟩ | ⟨hword, hlast, rfl⟩)
        · exact .offset h hmode hreach
        · exact .word h hword hlast
      · rintro (h' | ⟨h', hmode, hreach⟩ | ⟨h', hword, hlast⟩)
        · exact absurd (h.symm.trans h') (by simp)
        · obtain rfl := Option.some.inj (h.symm.trans h')
          exact .inl ⟨_, hmode, hreach, rfl⟩
        · obtain rfl := Option.some.inj (h.symm.trans h')
          exact .inr ⟨hword, hlast, rfl⟩

/-- A step warns at most once. -/
lemma length_faults_step_le (p : Processor) : p.step.faults.length ≤ 1 := by
  cases h : p.fetch.encoding? with
  | none => rw [step_eq_skip h]; exact Nat.le_refl 1
  | some e =>
      rw [faults_step h]
      rcases p.offsetFaults_eq_nil_or p.fetch e.mode e.operation.traffic with hnil | hnil
      · rw [hnil, List.nil_append]
        exact Traffic.length_faults_le ..
      · rw [hnil, List.append_nil]
        exact length_offsetFaults_le ..

/-- What a step warns about is decided by the memory, the program counter and the
index registers. -/
lemma faults_step_congr {r : Registers} (hpc : r.pc = p.registers.pc)
    (hindex : ∀ which, r.index which = p.registers.index which) :
    ({ p with registers := r } : Processor).step.faults = p.step.faults := by
  have hfetch : ({ p with registers := r } : Processor).fetch = p.fetch :=
    congrArg p.memory.fetch hpc
  cases h : p.fetch.encoding? with
  | none => rw [step_eq_skip h, step_eq_skip (by rw [hfetch, h]), hfetch]; rfl
  | some e =>
      rw [faults_step h, faults_step (by rw [hfetch, h]), hfetch]
      cases hmode : e.mode with
      | indexed which => simp only [offsetFaults, effectiveAddress?, hindex]
      | _ => rfl

/-- An instruction without an offset that uses no word of data warns about
nothing. -/
lemma faults_step_eq_nil (h : p.fetch.encoding? = some e) (hmode : ∀ r, e.mode ≠ .indexed r)
    (hword : ¬e.operation.traffic.isWord) : p.step.faults = [] := by
  refine List.eq_nil_iff_forall_not_mem.mpr fun fault hfault => ?_
  rw [faults_step h, List.mem_append, mem_offsetFaults_iff, Traffic.mem_faults_iff] at hfault
  rcases hfault with ⟨r, hindexed, -⟩ | ⟨hword', -⟩
  · exact hmode r hindexed
  · exact hword hword'

/-- The accesses of a step, from the effective address of its operand. -/
lemma accesses_step_of_place (h : p.fetch.encoding? = some e) {place : Option UInt16}
    (hplace : p.effectiveAddress? p.fetch e.mode = place) :
    p.step.accesses = e.operation.traffic.accesses place p.registers.sp := by
  rw [accesses_step, dataAccesses, h, ← hplace]

/-- A jump with an offset goes where the offset leads. -/
lemma pc_step_of_offset (h : p.fetch.encoding? = some e) {r : IndexRegister}
    (hmode : e.mode = .indexed r)
    (hjump : e.operation = .jump ∨ e.operation = .jumpToSubroutine) :
    p.step.processor.registers.pc = UInt16.ofNat (p.reach p.fetch r) := by
  rw [pc_step h, Instruction.pc_effect_of_jump hjump, Instruction.jumpTarget, Memory.complete,
    address?_operand, hmode, effectiveAddress?_indexed, Option.getD_some]

/-- The operand of the instruction at the program counter lies at its effective
address. -/
lemma address?_complete :
    (p.memory.complete p.fetch e).operand.address? (advance p.registers p.fetch) =
      p.effectiveAddress? p.fetch e.mode :=
  address?_operand p p.fetch e

/-- A step that reads a word of data does to the registers what it does with that
word as part of the instruction. -/
lemma registers_step_of_readWord {ea : UInt16} (h : p.fetch.encoding? = some e)
    (hread : e.operation.traffic = .readWord)
    (hea : p.effectiveAddress? p.fetch e.mode = some ea) :
    p.step.processor.registers =
      ({ p.memory.complete p.fetch e with operand := .word (p.memory.readWord ea) }.effect
        (advance p.registers p.fetch) p.memory).registers.charge (UInt64.ofNat e.cycles) := by
  rw [step_eq_execute h]
  exact congrArg (Registers.charge · _)
    (Instruction.registers_effect_of_readWord hread (address?_complete.trans hea) _)

/-- A step that writes a word of data writes the more significant byte first. -/
lemma memory_step_of_storeWord {ea : UInt16} {which : WordRegister}
    (h : p.fetch.encoding? = some e) (hstore : e.operation = .storeWord which)
    (hea : p.effectiveAddress? p.fetch e.mode = some ea) :
    p.step.processor.memory =
      (p.memory.write ea (Word.high (p.registers.word which))).write (ea + 1)
        (Word.low (p.registers.word which)) := by
  have haddress := address?_complete.trans hea
  rw [step_eq_execute h]
  simp only [execute, Instruction.effect, Memory.complete, hstore] at haddress ⊢
  simp only [Effect.putWord, haddress]
  cases which <;> rfl

end Processor

namespace Core

/-- **Warnings are exact**: a step warns at most once, and exactly about an opcode
that is not assigned, an offset past the last address or a word of data at the
last address. An offset leads around the end of the address space, whether it is
one of data or of a jump, and then never to the last address; the second byte of
a word at the last address is at address zero. Whatever has neither an offset nor
a word of data wraps around without a warning, and so does the stack. -/
theorem step_warnings (c : Core) :
    let p := c.processor
    let f := p.fetch
    let after := c.step.core
    c.step.faults.length ≤ 1 ∧
      (∀ fault, fault ∈ c.step.faults ↔ p.Warns fault) ∧
      (f.encoding? = none →
        c.step.retirement =
          .invalidOpcode (.invalidOpcode f.page f.opcode c.registers.pc) Page.unassignedCycles) ∧
      (∀ e r, f.encoding? = some e → e.mode = .indexed r →
        let place := UInt16.ofNat (p.reach f r)
        p.step.accesses = e.operation.traffic.accesses (some place) c.registers.sp ∧
          (e.operation = .jump ∨ e.operation = .jumpToSubroutine → after.registers.pc = place) ∧
          (65536 ≤ p.reach f r → place ≠ 0xFFFF)) ∧
      (∀ e, f.encoding? = some e → p.effectiveAddress? f e.mode = some 0xFFFF →
        (e.operation.traffic = .readWord →
          let word := Word.join (c.memory.read 0xFFFF) (c.memory.read 0)
          p.step.accesses = [⟨.read, 0xFFFF⟩, ⟨.read, 0⟩] ∧
            after.registers =
              ({ p.memory.complete f e with operand := .word word }.effect
                (Processor.advance c.registers f) c.memory).registers.charge
                  (UInt64.ofNat e.cycles)) ∧
          ∀ which, e.operation = .storeWord which →
            p.step.accesses = [⟨.write, 0xFFFF⟩, ⟨.write, 0⟩] ∧
              after.memory.read 0xFFFF = Word.high (c.registers.word which) ∧
              after.memory.read 0 = Word.low (c.registers.word which)) ∧
      (∀ e, f.encoding? = some e → (∀ r, e.mode ≠ .indexed r) → ¬e.operation.traffic.isWord →
        c.step.faults = []) ∧
      ∀ r : Registers, r.pc = c.registers.pc →
        (∀ which, r.index which = c.registers.index which) →
          (c.putRegisters r).step.faults = c.step.faults := by
  intro p f after
  refine ⟨p.length_faults_step_le, fun _ => Processor.mem_faults_step_iff, fun hnone => ?_,
    fun e r he hmode => ?_, fun e he hlast => ⟨fun hread => ?_, fun which hstore => ?_⟩,
    fun e he => Processor.faults_step_eq_nil he, fun r => Processor.faults_step_congr⟩
  · rw [← Memory.address_fetch c.memory c.registers.pc]
    exact congrArg ProcessorStep.retirement (Processor.step_eq_skip hnone)
  · have hplace := p.effectiveAddress?_indexed f r
    refine ⟨?_, Processor.pc_step_of_offset he hmode, Processor.ofNat_reach_ne_last⟩
    exact Processor.accesses_step_of_place he (hmode ▸ hplace)
  · refine ⟨?_, Processor.registers_step_of_readWord he hread hlast⟩
    rw [Processor.accesses_step_of_place he hlast, hread]
    rfl
  · have hmemory : after.memory = _ := Processor.memory_step_of_storeWord he hstore hlast
    refine ⟨?_, ?_, ?_⟩
    · rw [Processor.accesses_step_of_place he hlast, hstore]
      rfl
    · rw [hmemory, Memory.read_write, if_neg (by decide), Memory.read_write_self]
      rfl
    · rw [hmemory]
      exact Memory.read_write_self ..

/-- A jump around the end of the address space, with a warning. -/
theorem step_warnings_jumpAround :
    let c : Core :=
      ⟨⟨{ Registers.reset with x := 0xFFFF }, Memory.zero.writeBlock 0 [0x6E, 0x02]⟩, ∅⟩
    c.processor.fetch.encoding? = some ⟨.jump, .indexed .x, 3⟩ ∧
      .addressOutOfRange 0x10001 ∈ c.step.faults ∧ c.step.core.registers.pc = 1 := by
  intro c
  have hfetch : c.processor.fetch.encoding? = some ⟨.jump, .indexed .x, 3⟩ := by decide +kernel
  have hreach : c.processor.reach c.processor.fetch .x = 0x10001 := by decide +kernel
  clear_value c
  obtain ⟨-, hwarns, -, hoffset, -⟩ := step_warnings c
  have hwarning : c.processor.Warns (.addressOutOfRange (c.processor.reach _ .x)) :=
    .offset hfetch rfl (by rw [hreach]; decide)
  obtain ⟨-, hjump, -⟩ := hoffset _ .x hfetch rfl
  rw [hreach] at hwarning hjump
  exact ⟨hfetch, (hwarns _).mpr hwarning, hjump (.inl rfl)⟩

end Core

end M68HC11
