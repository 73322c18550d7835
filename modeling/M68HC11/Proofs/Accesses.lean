import M68HC11.Core
import Mathlib.Tactic.Common

/-!
The data that an instruction reads and writes.

* `Traffic` sorts the operations by the accesses to data they make, at the
  effective address of the operand or on the stack;
  `Processor.dataAccesses` is the list that follows from it for the
  instruction at the program counter, in order, and is read off the opcode,
  the bytes behind it and the registers, not off the execution;
* `Processor.accesses_step`: a step makes exactly the accesses of that list;
* `Effect.read_commit_of_notMem`: bytes that are not written stay as they
  are;
* `Core.step_dataAccesses` (**the accesses of a step**): the list, the bytes
  that a pushed word leaves on the stack, the frame of memory and the hits
  that the step adds to the queue.
-/

namespace M68HC11

/-! ### The accesses that belong to an operation -/

/-- How an operation uses data in memory. The first five say what happens at
the effective address of the operand, if the operand is in memory; the others
what happens on the stack. -/
inductive Traffic
  /-- A byte is read. -/
  | readByte
  /-- A word is read, byte after byte. -/
  | readWord
  /-- A byte is written. -/
  | writeByte
  /-- A word is written, byte after byte. -/
  | writeWord
  /-- A byte is read and written back. -/
  | update
  /-- A byte is pushed. -/
  | pushByte
  /-- A word is pushed. -/
  | pushWord
  /-- A byte is pulled. -/
  | pullByte
  /-- A word is pulled. -/
  | pullWord
  /-- The nine bytes that an interrupt has saved are pulled. -/
  | pullFrame
  /-- No data is used. -/
  | none
  deriving DecidableEq, Repr

/-- The use that an operation makes of data in memory. A test only reads its
operand and clearing only writes it; whatever else changes a byte in place
reads it first. -/
def Operation.traffic : Operation → Traffic
  | accumulate .. | branchOnBits _ | modify .test => .readByte
  | addWord | subtractWord | compareWord | compareIndex _ | loadWord _ => .readWord
  | store _ | modify .clear => .writeByte
  | storeWord _ => .writeWord
  | modify _ | putBits _ => .update
  | push _ => .pushByte
  | pushIndex _ | branchToSubroutine | jumpToSubroutine => .pushWord
  | pull _ => .pullByte
  | pullIndex _ | returnFromSubroutine => .pullWord
  | returnFromInterrupt => .pullFrame
  | _ => .none

/-- The accesses, in order, of an operand at the effective address `place`
(nothing if the operand is not in memory) and of a stack with the stack
pointer `sp`. Addresses wrap around. -/
def Traffic.accesses (t : Traffic) (place : Option UInt16) (sp : UInt16) : List Access :=
  match t, place with
  | readByte, some ea => [⟨.read, ea⟩]
  | readWord, some ea => [⟨.read, ea⟩, ⟨.read, ea + 1⟩]
  | writeByte, some ea => [⟨.write, ea⟩]
  | writeWord, some ea => [⟨.write, ea⟩, ⟨.write, ea + 1⟩]
  | update, some ea => [⟨.read, ea⟩, ⟨.write, ea⟩]
  | pushByte, _ => [⟨.write, sp⟩]
  | pushWord, _ => [⟨.write, sp⟩, ⟨.write, sp - 1⟩]
  | pullByte, _ => [⟨.read, sp + 1⟩]
  | pullWord, _ => [⟨.read, sp + 1⟩, ⟨.read, sp + 2⟩]
  | pullFrame, _ =>
    [⟨.read, sp + 1⟩, ⟨.read, sp + 2⟩, ⟨.read, sp + 3⟩, ⟨.read, sp + 4⟩, ⟨.read, sp + 5⟩,
      ⟨.read, sp + 6⟩, ⟨.read, sp + 7⟩, ⟨.read, sp + 8⟩, ⟨.read, sp + 9⟩]
  | _, _ => []

/-- The word that an operation pushes, if it pushes one: an index register, or
the address of the next instruction, where a subroutine returns to. -/
def Operation.pushedWord? (r : Registers) (next : UInt16) : Operation → Option UInt16
  | pushIndex which => some (r.index which)
  | branchToSubroutine | jumpToSubroutine => some next
  | _ => none

namespace Processor

/-- The address of the data that an instruction of the given mode works on,
if that data is in memory: it follows from the bytes behind the opcode and
the index registers. -/
def effectiveAddress? (p : Processor) (f : Fetch) : Mode → Option UInt16
  | .direct => some (p.memory.read f.operandAddress).toUInt16
  | .extended => some (p.memory.readWord f.operandAddress)
  | .indexed r => some (p.registers.index r + (p.memory.read f.operandAddress).toUInt16)
  | _ => none

/-- The accesses to data, in order, that belong to the instruction at the
program counter. An opcode that is not assigned has none. -/
def dataAccesses (p : Processor) : List Access :=
  match p.fetch.encoding? with
  | some e => e.operation.traffic.accesses (p.effectiveAddress? p.fetch e.mode) p.registers.sp
  | none => []

/-- The word that the instruction at the program counter pushes, if it pushes
one. -/
def pushedWord? (p : Processor) : Option UInt16 :=
  p.fetch.encoding?.bind fun e => e.operation.pushedWord? p.registers p.fetch.next

end Processor

/-! ### The accesses that an effect has -/

namespace Operand

/-- Reading a byte is one access, if the operand is in memory. -/
lemma reads_readByte (o : Operand) (r : Registers) (m : Memory) :
    (o.readByte r m).reads = (o.address? r).toList := by
  cases o <;> rfl

/-- Reading a word is two accesses, if the operand is in memory. -/
lemma reads_readWord (o : Operand) (r : Registers) (m : Memory) :
    (o.readWord r m).reads = (o.address? r).toList.flatMap fun ea => [ea, ea + 1] := by
  cases o <;> rfl

end Operand

namespace Effect

/-- The addresses that an effect writes, in order. -/
def writtenAddresses (e : Effect) : List UInt16 := e.writes.map (·.1)

/-- The accesses of an effect, from the addresses it reads and writes. -/
lemma accesses_eq (e : Effect) :
    e.accesses = e.reads.map (⟨.read, ·⟩) ++ e.writtenAddresses.map (⟨.write, ·⟩) := by
  simp [accesses, writtenAddresses]

@[simp] lemma reads_ofReading {α : Type} (v : Reading α) (r : Registers) :
    (ofReading v r).reads = v.reads := rfl

@[simp] lemma writtenAddresses_ofReading {α : Type} (v : Reading α) (r : Registers) :
    (ofReading v r).writtenAddresses = [] := rfl

/-- Replacing an operand reads nothing. -/
@[simp] lemma reads_putByte (e : Effect) (o : Operand) (r : Registers) (value : UInt8) :
    (e.putByte o r value).reads = e.reads := by
  cases o <;> rfl

/-- Replacing an operand in memory writes the byte it is. -/
@[simp] lemma writtenAddresses_putByte (e : Effect) (o : Operand) (r : Registers) (value : UInt8) :
    (e.putByte o r value).writtenAddresses = e.writtenAddresses ++ (o.address? r).toList := by
  cases o <;> simp [putByte, writeByte, writtenAddresses, Operand.address?]

@[simp] lemma reads_putWord (e : Effect) (o : Operand) (r : Registers) (value : UInt16) :
    (e.putWord o r value).reads = e.reads := by
  cases o <;> rfl

@[simp] lemma writtenAddresses_putWord (e : Effect) (o : Operand) (r : Registers)
    (value : UInt16) :
    (e.putWord o r value).writtenAddresses =
      e.writtenAddresses ++ (o.address? r).toList.flatMap fun ea => [ea, ea + 1] := by
  cases o <;> simp [putWord, writeWord, writtenAddresses, Operand.address?]

end Effect

namespace Instruction

/-- Combining an accumulator with a value makes the accesses of reading the
value. -/
lemma accesses_combine (op : Arithmetic) (which : Accumulator) (r : Registers)
    (v : Reading UInt8) : (combine op which r v).accesses = v.reads.map (⟨.read, ·⟩) := by
  simp [combine, Effect.accesses_eq]

/-- Changing the operand in place makes the accesses of its table row. -/
lemma accesses_change (i : Instruction) (op : Modification) (r : Registers) (m : Memory) :
    (i.change op r m).accesses =
      (Operation.modify op).traffic.accesses (i.operand.address? r) r.sp := by
  cases op <;> cases hea : i.operand.address? r <;>
    simp [change, Modification.apply, Effect.accesses_eq, Operand.reads_readByte, hea,
      Operation.traffic, Traffic.accesses, Reading.ofValue]

/-- Every instruction makes the accesses of its operation's row. The cases are
those of the operation; what has no operand in memory computes. -/
lemma accesses_effect (i : Instruction) (r : Registers) (m : Memory) :
    (i.effect r m).accesses =
      i.encoding.operation.traffic.accesses (i.operand.address? r) r.sp := by
  obtain ⟨⟨operation, mode, cycles⟩, operand, mask, displacement, next⟩ := i
  cases operation with
  | accumulate op which =>
      refine (accesses_combine op which r _).trans ?_
      rw [Operand.reads_readByte]
      cases operand.address? r <;> rfl
  | pair op => exact accesses_combine op.arithmetic .a r _
  | store which =>
      rw [Effect.accesses_eq]
      simp only [effect, Effect.reads_putByte, Effect.writtenAddresses_putByte]
      cases operand.address? r <;> rfl
  | modify op => exact accesses_change _ op r m
  | putBits state =>
      rw [Effect.accesses_eq]
      simp only [effect, changeBits, Effect.reads_putByte, Effect.writtenAddresses_putByte,
        Effect.reads_ofReading, Effect.writtenAddresses_ofReading, Operand.reads_readByte]
      cases operand.address? r <;> rfl
  | branchOnBits are =>
      rw [Effect.accesses_eq]
      simp only [effect, testBits, Effect.reads_ofReading, Effect.writtenAddresses_ofReading,
        Operand.reads_readByte]
      cases operand.address? r <;> rfl
  | addWord | subtractWord | compareWord | compareIndex | loadWord =>
      rw [Effect.accesses_eq]
      simp only [effect, Effect.reads_ofReading, Effect.writtenAddresses_ofReading,
        Operand.reads_readWord]
      cases operand.address? r <;> rfl
  | storeWord which =>
      rw [Effect.accesses_eq]
      simp only [effect, Effect.reads_putWord, Effect.writtenAddresses_putWord]
      cases operand.address? r <;> rfl
  | _ => rfl

end Instruction

/-! ### The accesses that a step makes -/

namespace Processor

/-- The operand that was decoded lies at the effective address of its mode. -/
lemma address?_operand (p : Processor) (f : Fetch) (e : Encoding) :
    (p.memory.operand e f.operandAddress).address? (advance p.registers f) =
      p.effectiveAddress? f e.mode := by
  obtain ⟨operation, mode, cycles⟩ := e
  cases mode with
  | immediate =>
      simp only [Memory.operand]
      split <;> rfl
  | indexed r => cases r <;> rfl
  | _ => rfl

/-- A step makes the accesses that belong to the instruction at the program
counter, in order, and no others. -/
lemma accesses_step (p : Processor) : p.step.accesses = p.dataAccesses := by
  rw [dataAccesses]
  cases hf : p.fetch.encoding? with
  | none => rw [step_eq_skip hf]; rfl
  | some e =>
      rw [step_eq_execute hf]
      refine (Instruction.accesses_effect _ _ _).trans ?_
      simp only [Memory.complete, address?_operand]
      rfl

end Processor

/-! ### The frame of memory -/

/-- A byte that is not written stays as it is. -/
lemma Effect.read_commit_of_notMem (e : Effect) (m : Memory) {address : UInt16}
    (h : address ∉ e.writtenAddresses) : (e.commit m).read address = m.read address := by
  have key : ∀ (ws : List (UInt16 × UInt8)) (m : Memory), address ∉ ws.map (·.1) →
      (ws.foldl (fun m w => m.write w.1 w.2) m).read address = m.read address := by
    intro ws
    induction ws with
    | nil => intro m _; rfl
    | cons w ws ih =>
        intro m hw
        rw [List.map_cons, List.mem_cons, not_or] at hw
        rw [List.foldl_cons, ih _ hw.2, Memory.read_write, if_neg hw.1]
  exact key e.writes m h

namespace Processor

/-- A step changes no byte of memory but those that its instruction writes. -/
lemma read_step_of_notMem (p : Processor) {address : UInt16}
    (h : ⟨.write, address⟩ ∉ p.dataAccesses) :
    p.step.processor.memory.read address = p.memory.read address := by
  rw [← accesses_step] at h
  cases hf : p.fetch.encoding? with
  | none => rw [step_eq_skip hf]; rfl
  | some e =>
      rw [step_eq_execute hf] at h ⊢
      refine Effect.read_commit_of_notMem _ _ fun hw => h ?_
      simp only [execute, Effect.accesses_eq]
      exact List.mem_append_right _ (List.mem_map_of_mem hw)

end Processor

/-! ### Words on the stack -/

/-- The cell below the top of the stack is another one. -/
lemma ne_sub_one (sp : UInt16) : sp ≠ sp - 1 := by
  intro h
  have hlt := sp.toNat_lt
  have hnat := congrArg UInt16.toNat h
  rw [UInt16.toNat_sub, UInt16.toNat_one] at hnat
  omega

/-- A pushed word lies on the stack with its less significant byte above its
more significant one. -/
lemma Effect.read_commit_pushWord (r : Registers) (w : UInt16) (m : Memory) :
    ((pushWord r w).commit m).read r.sp = Word.low w ∧
      ((pushWord r w).commit m).read (r.sp - 1) = Word.high w := by
  have hcommit : (pushWord r w).commit m =
      (m.write r.sp (Word.low w)).write (r.sp - 1) (Word.high w) := rfl
  rw [hcommit]
  refine ⟨?_, Memory.read_write_self ..⟩
  rw [Memory.read_write, if_neg (ne_sub_one r.sp), Memory.read_write_self]

namespace Processor

/-- The word that an instruction pushes lies on the stack after the step. -/
lemma read_step_of_pushedWord? (p : Processor) {w : UInt16} (h : p.pushedWord? = some w) :
    p.step.processor.memory.read p.registers.sp = Word.low w ∧
      p.step.processor.memory.read (p.registers.sp - 1) = Word.high w := by
  obtain ⟨e, he, hw⟩ := Option.bind_eq_some_iff.mp h
  rw [step_eq_execute he]
  have hpush := Effect.read_commit_pushWord (advance p.registers p.fetch) w p.memory
  obtain ⟨operation, mode, cycles⟩ := e
  cases operation with
  | pushIndex which =>
      obtain rfl := Option.some.inj hw
      cases which <;> exact hpush
  | branchToSubroutine | jumpToSubroutine =>
      obtain rfl := Option.some.inj hw
      exact hpush
  | _ => exact absurd hw (by simp [Operation.pushedWord?])

end Processor

namespace Core

/-- **The accesses of a step**: the instruction at the program counter makes
exactly the accesses that belong to it, in order. A word that it pushes lies
on the stack with the less significant byte above the other, no byte changes
but those written, and behind the hits that were waiting the step adds, for
each access in order, one hit for each registration at its address, in the
order of registration. -/
theorem step_dataAccesses (c : Core) :
    c.processor.step.accesses = c.processor.dataAccesses ∧
      (∀ w, c.processor.pushedWord? = some w →
        c.step.core.memory.read c.registers.sp = Word.low w ∧
          c.step.core.memory.read (c.registers.sp - 1) = Word.high w) ∧
      (∀ address, ⟨.write, address⟩ ∉ c.processor.dataAccesses →
        c.step.core.memory.read address = c.memory.read address) ∧
      c.step.core.traps.entries = c.traps.entries ∧
      c.step.core.traps.hits =
        c.traps.hits ++ c.processor.dataAccesses.flatMap fun access =>
          (c.traps.entries.filter fun trap => trap.address = access.address).map fun trap =>
            ⟨trap.observer, access.kind, access.address, c.registers.pc⟩ := by
  refine ⟨c.processor.accesses_step, fun w hw => c.processor.read_step_of_pushedWord? hw,
    fun address h => c.processor.read_step_of_notMem h, Traps.entries_recordAll .., ?_⟩
  rw [hits_step, Processor.accesses_step]
  rfl

end Core

end M68HC11
