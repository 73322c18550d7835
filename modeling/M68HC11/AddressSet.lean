/-!
Finite sets of addresses, kept as ascending lists.

* `mem_insert` and `mem_erase`: the members after an insertion and a removal;
  `contains` decides membership.
-/

namespace M68HC11

/-- Inserts an address into an ascending list that does not have it yet. -/
def insertAscending (address : UInt16) : List UInt16 → List UInt16
  | [] => [address]
  | a :: rest => if address < a then address :: a :: rest else a :: insertAscending address rest

theorem mem_insertAscending {address b : UInt16} {addresses : List UInt16} :
    b ∈ insertAscending address addresses ↔ b = address ∨ b ∈ addresses := by
  induction addresses with
  | nil => simp [insertAscending]
  | cons a rest ih =>
    unfold insertAscending
    split
    · simp
    · simp only [List.mem_cons, ih]
      constructor
      · rintro (h | h | h) <;> simp [h]
      · rintro (h | h | h) <;> simp [h]

theorem pairwise_insertAscending {address : UInt16} {addresses : List UInt16}
    (hnew : address ∉ addresses) (h : addresses.Pairwise (· < ·)) :
    (insertAscending address addresses).Pairwise (· < ·) := by
  induction addresses with
  | nil => simp [insertAscending]
  | cons a rest ih =>
    rw [List.pairwise_cons] at h
    simp only [List.mem_cons, not_or] at hnew
    unfold insertAscending
    split
    · next hlt =>
      refine List.pairwise_cons.mpr ⟨fun b hb => ?_, List.pairwise_cons.mpr h⟩
      rcases List.mem_cons.mp hb with rfl | hb
      · exact hlt
      · exact UInt16.lt_trans hlt (h.1 b hb)
    · next hge =>
      refine List.pairwise_cons.mpr ⟨fun b hb => ?_, ih hnew.2 h.2⟩
      rcases mem_insertAscending.mp hb with rfl | hb
      · have hne := hnew.1
        simp only [UInt16.lt_iff_toNat_lt, ← UInt16.toNat_inj] at hge hne ⊢
        omega
      · exact h.1 b hb

/-- A finite set of addresses. -/
structure AddressSet where
  /-- The members, in ascending order. -/
  toList : List UInt16
  ascending : toList.Pairwise (· < ·)
  deriving DecidableEq

namespace AddressSet

/-- The empty set. -/
def empty : AddressSet := ⟨[], List.Pairwise.nil⟩

instance : EmptyCollection AddressSet := ⟨empty⟩

instance : Inhabited AddressSet := ⟨empty⟩

instance : Membership UInt16 AddressSet := ⟨fun s address => address ∈ s.toList⟩

instance (s : AddressSet) (address : UInt16) : Decidable (address ∈ s) :=
  inferInstanceAs (Decidable (address ∈ s.toList))

/-- Whether an address is a member. -/
def contains (s : AddressSet) (address : UInt16) : Bool := s.toList.contains address

/-- The set with an address put in. -/
def insert (s : AddressSet) (address : UInt16) : AddressSet :=
  if h : address ∈ s.toList then s
  else ⟨insertAscending address s.toList, pairwise_insertAscending h s.ascending⟩

/-- The set with an address taken out. -/
def erase (s : AddressSet) (address : UInt16) : AddressSet :=
  ⟨s.toList.filter (· ≠ address), s.ascending.filter _⟩

@[simp] theorem contains_iff {s : AddressSet} {address : UInt16} :
    s.contains address = true ↔ address ∈ s := by
  simp [contains, Membership.mem]

@[simp] theorem not_mem_empty (address : UInt16) : address ∉ (∅ : AddressSet) :=
  List.not_mem_nil

@[simp] theorem mem_insert {s : AddressSet} {address b : UInt16} :
    b ∈ s.insert address ↔ b = address ∨ b ∈ s := by
  show b ∈ (s.insert address).toList ↔ b = address ∨ b ∈ s.toList
  unfold insert
  split
  · next h =>
    constructor
    · exact .inr
    · rintro (rfl | hb)
      · exact h
      · exact hb
  · exact mem_insertAscending

@[simp] theorem mem_erase {s : AddressSet} {address b : UInt16} :
    b ∈ s.erase address ↔ b ≠ address ∧ b ∈ s := by
  show b ∈ s.toList.filter _ ↔ b ≠ address ∧ b ∈ s.toList
  simp [and_comm]

@[simp] theorem contains_insert (s : AddressSet) (address b : UInt16) :
    (s.insert address).contains b = (b == address || s.contains b) := by
  rw [Bool.eq_iff_iff, contains_iff, mem_insert, Bool.or_eq_true, contains_iff, beq_iff_eq]

@[simp] theorem contains_erase (s : AddressSet) (address b : UInt16) :
    (s.erase address).contains b = (b != address && s.contains b) := by
  rw [Bool.eq_iff_iff, contains_iff, mem_erase, Bool.and_eq_true, contains_iff, bne_iff_ne]

end AddressSet

end M68HC11
