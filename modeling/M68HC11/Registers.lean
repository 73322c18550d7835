import M68HC11.ConditionCodes
import M68HC11.Isa.Register
import M68HC11.Word

/-!
The register file, with the cycle counter and the address of the instruction
that was executed last.

The accumulators are kept apart and the double accumulator is the word they
make up: `d_putD` and `putD_d` say that it can be read and written as if it
were a register of its own.
-/

namespace M68HC11

/-- The registers. The cycle counter counts modulo 2 to the power of 64. -/
structure Registers where
  a : UInt8
  b : UInt8
  x : UInt16
  y : UInt16
  sp : UInt16
  pc : UInt16
  /-- Where the instruction begins that was executed last. -/
  lastPc : UInt16
  cc : ConditionCodes
  cycles : UInt64
  deriving DecidableEq, Repr

namespace Registers

/-- The registers after a reset. -/
def reset : Registers where
  a := 0
  b := 0
  x := 0
  y := 0
  sp := 0
  pc := 0
  lastPc := 0
  cc := .reset
  cycles := 0

instance : Inhabited Registers := ⟨reset⟩

/-- The double accumulator. -/
def d (r : Registers) : UInt16 := Word.join r.a r.b

/-- Replaces the double accumulator. -/
def putD (r : Registers) (value : UInt16) : Registers :=
  { r with a := Word.high value, b := Word.low value }

/-- An accumulator. -/
def accumulator (r : Registers) : Accumulator → UInt8
  | .a => r.a
  | .b => r.b

/-- Replaces an accumulator. -/
def putAccumulator (r : Registers) (which : Accumulator) (value : UInt8) : Registers :=
  match which with
  | .a => { r with a := value }
  | .b => { r with b := value }

/-- An index register. -/
def index (r : Registers) : IndexRegister → UInt16
  | .x => r.x
  | .y => r.y

/-- Replaces an index register. -/
def putIndex (r : Registers) (which : IndexRegister) (value : UInt16) : Registers :=
  match which with
  | .x => { r with x := value }
  | .y => { r with y := value }

/-- A register of sixteen bits. -/
def word (r : Registers) : WordRegister → UInt16
  | .d => r.d
  | .x => r.x
  | .y => r.y
  | .sp => r.sp

/-- Replaces a register of sixteen bits. -/
def putWord (r : Registers) (which : WordRegister) (value : UInt16) : Registers :=
  match which with
  | .d => r.putD value
  | .x => { r with x := value }
  | .y => { r with y := value }
  | .sp => { r with sp := value }

/-- Charges cycles to the counter. -/
def charge (r : Registers) (cycles : UInt64) : Registers := { r with cycles := r.cycles + cycles }

@[simp] theorem d_putD (r : Registers) (value : UInt16) : (r.putD value).d = value := by
  simp [d, putD]

@[simp] theorem putD_d (r : Registers) : r.putD r.d = r := by
  simp [d, putD]

@[simp] theorem accumulator_putAccumulator (r : Registers) (which : Accumulator) (value : UInt8) :
    (r.putAccumulator which value).accumulator which = value := by
  cases which <;> rfl

@[simp] theorem index_putIndex (r : Registers) (which : IndexRegister) (value : UInt16) :
    (r.putIndex which value).index which = value := by
  cases which <;> rfl

@[simp] theorem word_putWord (r : Registers) (which : WordRegister) (value : UInt16) :
    (r.putWord which value).word which = value := by
  cases which <;> simp [word, putWord]

end Registers

end M68HC11
