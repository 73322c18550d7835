import M68HC11.Execution
import M68HC11.Traps

/-!
The core: a processor together with the traps that watch its data.

* `Core.step` executes one instruction and records the hits of its accesses;
  the traps have no influence on what the processor does
  (`processor_step`).
* `Core.read` and `Core.write` are single accesses of the same kind.
-/

namespace M68HC11

/-- A processor with traps. -/
structure Core where
  processor : Processor
  traps : Traps
  deriving DecidableEq

/-- What a step of the core leads to. -/
structure CoreStep where
  core : Core
  retirement : Retirement
  faults : List Fault

namespace Core

/-- A core after a reset, with an empty memory and no traps. -/
def initial : Core := ⟨.initial, ∅⟩

instance : Inhabited Core := ⟨initial⟩

/-- The registers. -/
def registers (c : Core) : Registers := c.processor.registers

/-- The memory. -/
def memory (c : Core) : Memory := c.processor.memory

/-- Replaces the registers. -/
def putRegisters (c : Core) (r : Registers) : Core :=
  { c with processor := { c.processor with registers := r } }

/-- Replaces the memory. -/
def putMemory (c : Core) (m : Memory) : Core :=
  { c with processor := { c.processor with memory := m } }

/-- Resets the registers; memory and traps stay as they are. -/
def reset (c : Core) : Core := c.putRegisters .reset

/-- Reads a byte of data for the instruction at an address. -/
def read (c : Core) (address instruction : UInt16) : UInt8 × Core :=
  (c.memory.read address, { c with traps := c.traps.record ⟨.read, address⟩ instruction })

/-- Writes a byte of data for the instruction at an address. -/
def write (c : Core) (address : UInt16) (value : UInt8) (instruction : UInt16) : Core :=
  let written := c.putMemory (c.memory.write address value)
  { written with traps := c.traps.record ⟨.write, address⟩ instruction }

/-- Executes the instruction at the program counter and records the hits of
its accesses to data. -/
def step (c : Core) : CoreStep :=
  match c with
  | ⟨processor, traps⟩ =>
    let instruction := processor.registers.pc
    let s := processor.step
    { core := ⟨s.processor, traps.recordAll s.accesses instruction⟩
      retirement := s.retirement
      faults := s.faults }

/-- The processor steps as if there were no traps. -/
@[simp] theorem processor_step (c : Core) : c.step.core.processor = c.processor.step.processor :=
  rfl

/-- The hits of a step come behind those that were waiting. -/
theorem hits_step (c : Core) :
    c.step.core.traps.hits =
      c.traps.hits ++
        c.processor.step.accesses.flatMap fun a => c.traps.hitsOf a c.registers.pc :=
  Traps.hits_recordAll ..

end Core

end M68HC11
