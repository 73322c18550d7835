/-!
The registers that instructions name, and the letters they are written with.
-/

namespace M68HC11

/-- An accumulator of eight bits. -/
inductive Accumulator
  | a
  | b
  deriving DecidableEq, Repr

/-- An index register of sixteen bits. -/
inductive IndexRegister
  | x
  | y
  deriving DecidableEq, Repr

/-- A register of sixteen bits that instructions load and store: the two
accumulators taken together, an index register or the stack pointer. -/
inductive WordRegister
  | d
  | x
  | y
  | sp
  deriving DecidableEq, Repr

/-- The letter at the end of a mnemonic that names the accumulator. -/
def Accumulator.suffix : Accumulator → String
  | .a => "a"
  | .b => "b"

/-- The accumulator's name in running text. -/
def Accumulator.name : Accumulator → String
  | .a => "A"
  | .b => "B"

/-- The accumulator that is not this one. -/
def Accumulator.other : Accumulator → Accumulator
  | .a => .b
  | .b => .a

/-- The letter at the end of a mnemonic that names the index register. -/
def IndexRegister.suffix : IndexRegister → String
  | .x => "x"
  | .y => "y"

/-- The index register's name in running text. -/
def IndexRegister.name : IndexRegister → String
  | .x => "X"
  | .y => "Y"

/-- The letter at the end of a mnemonic that names the register. -/
def WordRegister.suffix : WordRegister → String
  | .d => "d"
  | .x => "x"
  | .y => "y"
  | .sp => "s"

/-- The register's name in running text. -/
def WordRegister.name : WordRegister → String
  | .d => "D"
  | .x => "X"
  | .y => "Y"
  | .sp => "SP"

end M68HC11
