import M68HC11.Text.AsciiCase
import Mathlib.Data.List.Forall2

/-!
Names that differ at most in the case of letters.

* `Text.SameSpelling`: the same names but for the case of letters from A to Z, said
  letter by letter;
* `Text.sameName_iff`: this is what names are compared by.
-/

namespace M68HC11.Text

/-- A letter from A to Z, and the same letter in small. -/
def CapitalOf (c d : Char) : Prop :=
  'A'.toNat ≤ c.toNat ∧ c.toNat ≤ 'Z'.toNat ∧ d.toNat = c.toNat + 32

/-- The same character, or the same letter from A to Z in another case. -/
def SameLetter (c d : Char) : Prop := c = d ∨ CapitalOf c d ∨ CapitalOf d c

/-- Names with the same letters, one by one. -/
def SameSpelling (a b : String) : Prop := List.Forall₂ SameLetter a.toList b.toList

/-- The code of a letter made small. -/
lemma toNat_toLower (c : Char) :
    c.toLower.toNat = if 65 ≤ c.toNat ∧ c.toNat ≤ 90 then c.toNat + 32 else c.toNat := by
  by_cases hupper : c.val ≥ 'A'.val ∧ c.val ≤ 'Z'.val
  · have hlow : 65 ≤ c.toNat := UInt32.le_iff_toNat_le.mp hupper.1
    have hhigh : c.toNat ≤ 90 := UInt32.le_iff_toNat_le.mp hupper.2
    have hlower : c.toLower.toNat = (c.val + 32).toNat := congrArg Char.toNat (dif_pos hupper)
    rw [if_pos ⟨hlow, hhigh⟩, hlower, UInt32.toNat_add]
    exact Nat.mod_eq_of_lt (by change c.toNat + 32 < _; omega)
  · have hsame : c.toLower = c := dif_neg hupper
    rw [hsame, if_neg]
    rintro ⟨hlow, hhigh⟩
    exact hupper ⟨UInt32.le_iff_toNat_le.mpr hlow, UInt32.le_iff_toNat_le.mpr hhigh⟩

/-- Letters made small are the same exactly if they differ at most in case. -/
lemma toLower_eq_iff (c d : Char) : c.toLower = d.toLower ↔ SameLetter c d := by
  rw [← Char.toNat_inj, toNat_toLower, toNat_toLower, SameLetter, CapitalOf, CapitalOf,
    ← Char.toNat_inj]
  have hA : 'A'.toNat = 65 := rfl
  have hZ : 'Z'.toNat = 90 := rfl
  split <;> split <;> omega

/-- Names are compared by their spelling. -/
lemma sameName_iff (a b : String) : sameName a b = true ↔ SameSpelling a b := by
  rw [sameName, beq_iff_eq, lowerAscii, lowerAscii, ← String.toList_inj, String.toList_map,
    String.toList_map, SameSpelling, ← List.forall₂_eq_eq_eq, List.forall₂_map_left_iff,
    List.forall₂_map_right_iff]
  simp only [toLower_eq_iff]

end M68HC11.Text
