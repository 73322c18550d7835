import M68HC11.ConditionCodes

/-!
The conditions that relative branches test.

* `holds_opposite`: every condition has an opposite, which holds exactly when
  the condition does not.
-/

namespace M68HC11

/-- A condition on the condition codes. After a comparison the conditions
from `higher` to `carrySet` order unsigned numbers and those from
`greaterOrEqual` on order numbers in two's complement. -/
inductive Condition
  | always
  | never
  | higher
  | lowerOrSame
  | carryClear
  | carrySet
  | notEqual
  | equal
  | overflowClear
  | overflowSet
  | plus
  | minus
  | greaterOrEqual
  | less
  | greater
  | lessOrEqual
  deriving DecidableEq, Repr

namespace Condition

/-- Whether the condition holds. -/
def holds (cc : ConditionCodes) : Condition → Bool
  | always => true
  | never => false
  | higher => !(cc.c || cc.z)
  | lowerOrSame => cc.c || cc.z
  | carryClear => !cc.c
  | carrySet => cc.c
  | notEqual => !cc.z
  | equal => cc.z
  | overflowClear => !cc.v
  | overflowSet => cc.v
  | plus => !cc.n
  | minus => cc.n
  | greaterOrEqual => cc.n == cc.v
  | less => cc.n != cc.v
  | greater => !cc.z && cc.n == cc.v
  | lessOrEqual => cc.z || cc.n != cc.v

/-- The condition that holds when this one does not. -/
def opposite : Condition → Condition
  | always => never
  | never => always
  | higher => lowerOrSame
  | lowerOrSame => higher
  | carryClear => carrySet
  | carrySet => carryClear
  | notEqual => equal
  | equal => notEqual
  | overflowClear => overflowSet
  | overflowSet => overflowClear
  | plus => minus
  | minus => plus
  | greaterOrEqual => less
  | less => greaterOrEqual
  | greater => lessOrEqual
  | lessOrEqual => greater

/-- The opposite of a condition holds exactly when the condition does not. -/
theorem holds_opposite (cc : ConditionCodes) (condition : Condition) :
    condition.opposite.holds cc = !condition.holds cc := by
  obtain ⟨_, _, _, _, n, z, v, c⟩ := cc
  cases condition <;> cases n <;> cases z <;> cases v <;> cases c <;> rfl

/-- The mnemonic of the branch on the condition. -/
def mnemonic : Condition → String
  | always => "bra"
  | never => "brn"
  | higher => "bhi"
  | lowerOrSame => "bls"
  | carryClear => "bcc"
  | carrySet => "bcs"
  | notEqual => "bne"
  | equal => "beq"
  | overflowClear => "bvc"
  | overflowSet => "bvs"
  | plus => "bpl"
  | minus => "bmi"
  | greaterOrEqual => "bge"
  | less => "blt"
  | greater => "bgt"
  | lessOrEqual => "ble"

/-- What the branch on the condition does, in a few words. -/
def summary : Condition → String
  | always => "Branch always."
  | never => "Branch never."
  | higher => "Branch if higher (unsigned)."
  | lowerOrSame => "Branch if lower or same (unsigned)."
  | carryClear => "Branch if carry clear."
  | carrySet => "Branch if carry set."
  | notEqual => "Branch if not equal."
  | equal => "Branch if equal."
  | overflowClear => "Branch if overflow clear."
  | overflowSet => "Branch if overflow set."
  | plus => "Branch if plus."
  | minus => "Branch if minus."
  | greaterOrEqual => "Branch if greater than or equal (signed)."
  | less => "Branch if less than (signed)."
  | greater => "Branch if greater than (signed)."
  | lessOrEqual => "Branch if less than or equal (signed)."

end Condition

end M68HC11
