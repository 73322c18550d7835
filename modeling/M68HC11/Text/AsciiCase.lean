/-!
Comparison of names in which the case of the letters from A to Z does not
matter; letters outside that range stand only for themselves.
-/

namespace M68HC11.Text

/-- A name with the letters from A to Z made small. -/
def lowerAscii (name : String) : String := name.map Char.toLower

/-- Whether two names differ at most in the case of letters from A to Z. -/
def sameName (a b : String) : Bool := lowerAscii a == lowerAscii b

/-- A name is the same as itself. -/
@[simp] theorem sameName_refl (a : String) : sameName a a := by simp [sameName]

/-- The order in which two names are compared does not matter. -/
theorem sameName_comm (a b : String) : sameName a b = sameName b a := by
  simp only [sameName, Bool.beq_comm]

/-- Two names that are the same as a third are the same as each other. -/
theorem sameName_trans {a b c : String} (hab : sameName a b) (hbc : sameName b c) :
    sameName a c := by
  simp only [sameName, beq_iff_eq] at *
  exact hab.trans hbc

end M68HC11.Text
