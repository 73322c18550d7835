import M68HC11.Alu
import M68HC11.Effect

/-!
The execution of instructions.

* `Instruction.effect` says what each operation does. It is given the
  registers as they are once the program counter has moved on to the next
  instruction, so that a branch is relative to that and a call returns there.
* `Processor.step` executes the instruction at the program counter. An opcode
  that is not assigned does nothing but take its time.
-/

namespace M68HC11

/-! ### Operations by kind -/

namespace Instruction

/-- Combines an accumulator with a value that was read. -/
def combine (op : Arithmetic) (which : Accumulator) (r : Registers) (v : Reading UInt8) : Effect :=
  let result := op.apply r.cc (r.accumulator which) v.value
  let r := { r with cc := result.2 }
  .ofReading v (match result.1 with
    | some value => r.putAccumulator which value
    | none => r)

/-- Changes the operand in place. Clearing does not read it first. -/
def change (i : Instruction) (op : Modification) (r : Registers) (m : Memory) : Effect :=
  let v := if op = .clear then .ofValue 0 else i.operand.readByte r m
  let result := op.apply r.cc v.value
  let e := Effect.ofReading v { r with cc := result.2 }
  match result.1 with
  | some value => e.putByte i.operand r value
  | none => e

/-- Sets or clears masked bits of the operand. -/
def changeBits (i : Instruction) (state : BitState) (r : Registers) (m : Memory) : Effect :=
  let v := i.operand.readByte r m
  let value := state.put v.value i.mask
  (Effect.ofReading v { r with cc := r.cc.ofData value }).putByte i.operand r value

/-- Branches if masked bits of the operand are all set or all clear. -/
def testBits (i : Instruction) (are : BitState) (r : Registers) (m : Memory) : Effect :=
  let v := i.operand.readByte r m
  .ofReading v
    (if are.test v.value i.mask then { r with pc := Word.displace r.pc i.displacement } else r)

/-- The target of a relative branch. -/
def branchTarget (i : Instruction) (r : Registers) : UInt16 :=
  match i.operand with
  | .relative displacement => Word.displace r.pc displacement
  | _ => r.pc

/-- The target of a jump. The table gives jumps and calls operands in memory only;
with another one there is nowhere to go. -/
def jumpTarget (i : Instruction) (r : Registers) : UInt16 := (i.operand.address? r).getD r.pc

end Instruction

/-- Calls a subroutine: the address of the next instruction is pushed. -/
def callEffect (r : Registers) (target : UInt16) : Effect :=
  let e := Effect.pushWord r r.pc
  { e with registers := { e.registers with pc := target } }

/-- Returns from an interrupt: the condition codes, the second and the first
accumulator, the index registers and the program counter are taken from the
stack. -/
def returnFromInterruptEffect (r : Registers) (m : Memory) : Effect :=
  let top := r.sp
  ⟨{ r with
      cc := r.cc.load (m.read (top + 1))
      b := m.read (top + 2)
      a := m.read (top + 3)
      x := m.readWord (top + 4)
      y := m.readWord (top + 6)
      pc := m.readWord (top + 8)
      sp := top + 9 },
    [top + 1, top + 2, top + 3, top + 4, top + 5, top + 6, top + 7, top + 8, top + 9], [], []⟩

/-! ### All operations -/

/-- The effect of an instruction on registers of which the program counter is
at the next instruction. -/
def Instruction.effect (i : Instruction) (r : Registers) (m : Memory) : Effect :=
  match i.encoding.operation with
  | .nop => .ofRegisters r
  | .accumulate op which => Instruction.combine op which r (i.operand.readByte r m)
  | .store which =>
    let value := r.accumulator which
    (Effect.ofRegisters { r with cc := r.cc.ofData value }).putByte i.operand r value
  | .pair op => Instruction.combine op.arithmetic .a r (.ofValue r.b)
  | .copy source =>
    let value := r.accumulator source
    .ofRegisters ({ r with cc := r.cc.ofData value }.putAccumulator source.other value)
  | .decimalAdjust =>
    let result := M68HC11.decimalAdjust r.cc r.a
    .ofRegisters { r with a := result.1, cc := result.2 }
  | .modify op => i.change op r m
  | .putBits state => i.changeBits state r m
  | .branchOnBits are => i.testBits are r m
  | .addWord =>
    let v := i.operand.readWord r m
    let result := M68HC11.addWord r.cc r.d v.value
    .ofReading v ({ r with cc := result.2 }.putD result.1)
  | .subtractWord =>
    let v := i.operand.readWord r m
    let result := M68HC11.subtractWord r.cc r.d v.value
    .ofReading v ({ r with cc := result.2 }.putD result.1)
  | .compareWord =>
    let v := i.operand.readWord r m
    .ofReading v { r with cc := (M68HC11.subtractWord r.cc r.d v.value).2 }
  | .compareIndex which =>
    let v := i.operand.readWord r m
    .ofReading v { r with cc := (M68HC11.subtractWord r.cc (r.index which) v.value).2 }
  | .loadWord which =>
    let v := i.operand.readWord r m
    .ofReading v ({ r with cc := r.cc.ofDataWord v.value }.putWord which v.value)
  | .storeWord which =>
    let value := r.word which
    (Effect.ofRegisters { r with cc := r.cc.ofDataWord value }).putWord i.operand r value
  | .stepIndex direction which =>
    let value := direction.apply (r.index which)
    .ofRegisters ({ r with cc := { r.cc with z := value == 0 } }.putIndex which value)
  | .stepStack direction => .ofRegisters { r with sp := direction.apply r.sp }
  | .addToIndex which =>
    .ofRegisters (r.putIndex which (Fold.word ((r.index which).toNat + r.b.toNat)))
  | .exchange which => .ofRegisters ((r.putD (r.index which)).putIndex which r.d)
  | .shiftWord direction =>
    let result := direction.apply r.cc r.d
    .ofRegisters ({ r with cc := result.2 }.putD result.1)
  | .multiply =>
    let result := M68HC11.multiply r.cc r.a r.b
    .ofRegisters ({ r with cc := result.2 }.putD result.1)
  | .divide kind =>
    let result := kind.apply r.cc r.d r.x
    .ofRegisters ({ r with x := result.quotient, cc := result.codes }.putD result.remainder)
  | .branch condition =>
    .ofRegisters (if condition.holds r.cc then { r with pc := i.branchTarget r } else r)
  | .branchToSubroutine => callEffect r (i.branchTarget r)
  | .jump => .ofRegisters { r with pc := i.jumpTarget r }
  | .jumpToSubroutine => callEffect r (i.jumpTarget r)
  | .returnFromSubroutine =>
    let v := pullWord r m
    .ofReading v { r.drop 2 with pc := v.value }
  | .returnFromInterrupt => returnFromInterruptEffect r m
  | .push which => .pushByte r (r.accumulator which)
  | .pull which =>
    let v := pullByte r m
    .ofReading v ((r.drop 1).putAccumulator which v.value)
  | .pushIndex which => .pushWord r (r.index which)
  | .pullIndex which =>
    let v := pullWord r m
    .ofReading v ((r.drop 2).putIndex which v.value)
  | .stackToIndex which => .ofRegisters (r.putIndex which (r.sp + 1))
  | .indexToStack which => .ofRegisters { r with sp := r.index which - 1 }
  | .accumulatorToCodes => .ofRegisters { r with cc := r.cc.load r.a }
  | .codesToAccumulator => .ofRegisters { r with a := r.cc.toByte }
  | .putFlag flag state => .ofRegisters { r with cc := flag.put r.cc state }

/-! ### One step of the processor -/

/-- Registers and memory: all that an instruction can touch. -/
structure Processor where
  registers : Registers
  memory : Memory
  deriving DecidableEq

/-- How an instruction ended. -/
inductive Retirement
  /-- It was executed. -/
  | retired (cycles : Nat)
  /-- Its opcode is not assigned. -/
  | invalidOpcode (fault : Fault) (cycles : Nat)
  deriving DecidableEq, Repr

/-- The cycles that an instruction took. -/
def Retirement.cycles : Retirement → Nat
  | retired cycles => cycles
  | invalidOpcode _ cycles => cycles

/-- What a step of the processor leads to. -/
structure ProcessorStep where
  processor : Processor
  retirement : Retirement
  /-- The accesses to data, in order. -/
  accesses : List Access
  faults : List Fault

namespace Processor

/-- A processor after a reset, with an empty memory. -/
def initial : Processor := ⟨.reset, .zero⟩

instance : Inhabited Processor := ⟨initial⟩

/-- The registers once the program counter has moved on from an opcode. -/
def advance (r : Registers) (f : Fetch) : Registers := { r with lastPc := r.pc, pc := f.next }

/-- The step over an opcode that is not assigned. -/
def skip (p : Processor) (f : Fetch) : ProcessorStep where
  processor := { p with
    registers := (advance p.registers f).charge (UInt64.ofNat Page.unassignedCycles) }
  retirement := .invalidOpcode f.invalidOpcode Page.unassignedCycles
  accesses := []
  faults := [f.invalidOpcode]

/-- The step that executes an instruction. -/
def execute (p : Processor) (f : Fetch) (i : Instruction) : ProcessorStep :=
  -- Taken apart, the memory is nobody else's and can be written in place.
  match p with
  | ⟨registers, memory⟩ =>
    let r := advance registers f
    let e := i.effect r memory
    { processor := ⟨e.registers.charge (UInt64.ofNat i.encoding.cycles), e.commit memory⟩
      retirement := .retired i.encoding.cycles
      accesses := e.accesses
      faults := i.operand.faults r ++ e.faults }

/-- The opcode at the program counter. -/
def fetch (p : Processor) : Fetch := p.memory.fetch p.registers.pc

/-- Executes the instruction at the program counter. -/
def step (p : Processor) : ProcessorStep :=
  match p.memory.instruction? p.fetch with
  | some i => p.execute p.fetch i
  | none => p.skip p.fetch

/-- An assigned opcode is executed with what follows it. -/
theorem step_eq_execute {p : Processor} {e : Encoding} (h : p.fetch.encoding? = some e) :
    p.step = p.execute p.fetch (p.memory.complete p.fetch e) := by
  simp only [step, Memory.instruction?, h, Option.map_some]

/-- An opcode that is not assigned is stepped over. -/
theorem step_eq_skip {p : Processor} (h : p.fetch.encoding? = none) : p.step = p.skip p.fetch := by
  simp only [step, Memory.instruction?, h, Option.map_none]

end Processor

end M68HC11
