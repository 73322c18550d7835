import M68HC11.Machine
import Mathlib.Algebra.Ring.Nat
import Mathlib.Data.List.Induction
import Mathlib.Tactic.Common

/-!
Blocks of bytes that are written to memory.

A block is written byte after byte from an address on, around the end of the
address space. One that is longer than the address space comes around to its
own first bytes.

* `WrittenLast` picks out the byte of a block that is the last to go to an
  address, and `Memory.read_writeBlock` says that it is the one that stands
  there, by induction from the end of the block;
* `Memory.blockFaults_eq`: a block whose end is a number of 32 bits is warned
  about exactly if it goes past the last address;
* `Machine.writeBlock_lastWriter` (**the last writer wins**).
-/

namespace M68HC11

/-- Whether the byte with index `i` of a block at `base` is the last of its
`length` bytes that goes to `target`. -/
structure WrittenLast (base : UInt16) (length : Nat) (target : UInt16) (i : Nat) : Prop where
  lt : i < length
  arrives : (base.toNat + i) % 65536 = target.toNat
  last : ∀ j < length, (base.toNat + j) % 65536 = target.toNat → j ≤ i

/-- A byte that is added to a block and goes elsewhere does not change which is
the last. -/
lemma WrittenLast.succ {base target : UInt16} {length i : Nat}
    (h : WrittenLast base length target i)
    (hother : (base.toNat + length) % 65536 ≠ target.toNat) :
    WrittenLast base (length + 1) target i := by
  refine ⟨Nat.lt_succ_of_lt h.lt, h.arrives, fun j hj harrives => ?_⟩
  rcases Nat.lt_succ_iff_lt_or_eq.mp hj with hlt | rfl
  · exact h.last j hlt harrives
  · exact absurd harrives hother

namespace Memory

/-- Where a byte of a block goes. -/
lemma eq_add_ofNat_iff {base target : UInt16} {i : Nat} :
    target = base + UInt16.ofNat i ↔ (base.toNat + i) % 65536 = target.toNat := by
  rw [← UInt16.toNat_inj, UInt16.toNat_add, UInt16.toNat_ofNat']
  omega

/-- At every address stands the byte of the block that was the last to go
there; where none goes, memory is as it was. -/
lemma read_writeBlock (m : Memory) (base target : UInt16) (bytes : List UInt8) :
    (∃ i, WrittenLast base bytes.length target i ∧
        bytes[i]? = some ((m.writeBlock base bytes).read target)) ∨
      (∀ i < bytes.length, (base.toNat + i) % 65536 ≠ target.toNat) ∧
        (m.writeBlock base bytes).read target = m.read target := by
  induction bytes using List.reverseRecOn with
  | nil => exact .inr ⟨fun i hi => absurd hi (Nat.not_lt_zero i), rfl⟩
  | append_singleton bytes b ih =>
      have hread : (m.writeBlock base (bytes ++ [b])).read target =
          if target = base + UInt16.ofNat bytes.length then b
          else (m.writeBlock base bytes).read target := by
        rw [writeBlock_append]
        exact read_write _ _ _ _
      rw [hread, List.length_append, List.length_singleton]
      by_cases harrives : (base.toNat + bytes.length) % 65536 = target.toNat
      · refine .inl ⟨bytes.length,
          ⟨Nat.lt_succ_self _, harrives, fun j hj _ => Nat.le_of_lt_succ hj⟩, ?_⟩
        rw [if_pos (eq_add_ofNat_iff.mpr harrives), List.getElem?_concat_length]
      · rw [if_neg (mt eq_add_ofNat_iff.mp harrives)]
        refine ih.imp ?_ ?_
        · rintro ⟨i, hlast, hbyte⟩
          exact ⟨i, hlast.succ harrives, by rw [List.getElem?_append_left hlast.lt, hbyte]⟩
        · rintro ⟨hnone, hsame⟩
          refine ⟨fun i hi => ?_, hsame⟩
          rcases Nat.lt_succ_iff_lt_or_eq.mp hi with hlt | rfl
          · exact hnone i hlt
          · exact harrives

/-- The end of a block that is not too long for the number is where its bytes
lead, without wrapping around. -/
lemma toNat_blockEnd {length : Nat} (h : length < 2 ^ 32 - 2 ^ 16) (base : UInt16) :
    (blockEnd base length).toNat = base.toNat + length := by
  have hbase := base.toNat_lt
  have hsize : UInt32.size = 2 ^ 32 := rfl
  rw [blockEnd, UInt32.toNat_add, UInt16.toNat_toUInt32, UInt32.toNat_ofNat']
  omega

/-- Such a block is warned about exactly if it goes past the last address, with
the address that its last byte would have. -/
lemma blockFaults_eq {length : Nat} (h : length < 2 ^ 32 - 2 ^ 16) (base : UInt16) :
    blockFaults base length =
      if 65536 < base.toNat + length then [.addressOutOfRange (base.toNat + length - 1)]
      else [] := by
  have hend := toNat_blockEnd h base
  have hpast : 65536 < blockEnd base length ↔ 65536 < base.toNat + length := by
    rw [UInt32.lt_iff_toNat_lt, hend]
    rfl
  unfold blockFaults
  by_cases hlong : 65536 < base.toNat + length
  · have hone : (1 : UInt32) ≤ blockEnd base length := by
      rw [UInt32.le_iff_toNat_le, hend, UInt32.toNat_one]
      omega
    rw [if_pos (hpast.mpr hlong), if_pos hlong, UInt32.toNat_sub_of_le _ _ hone, hend,
      UInt32.toNat_one]
  · rw [if_neg (mt hpast.mp hlong), if_neg hlong]

example :
    blockFaults 0xFFFE 2 = [] ∧ blockFaults 0xFFFE 3 = [.addressOutOfRange 0x10000] := by
  decide

end Memory

namespace Machine

/-- **The last writer wins**: after a block of any length has been written,
every address holds the byte of the block that was the last to go there, or
what it held before if none did. As long as the end of the block is a number of
32 bits, one warning is told exactly if the block goes past the last address. The
traps with their hits are as they were. Writing more bytes behind a block is
writing another block where it ends. -/
theorem writeBlock_lastWriter (m : Machine) (base : UInt16) (bytes : List UInt8) :
    let after := m.writeBlock base bytes
    (∀ target,
      (∃ i, WrittenLast base bytes.length target i ∧
          bytes[i]? = some (after.memory.read target)) ∨
        (∀ i < bytes.length, (base.toNat + i) % 65536 ≠ target.toNat) ∧
          after.memory.read target = m.memory.read target) ∧
      (bytes.length < 2 ^ 32 - 2 ^ 16 →
        after.journal = m.journal ++ faultNotices
          (if 65536 < base.toNat + bytes.length then
            [.addressOutOfRange (base.toNat + bytes.length - 1)]
          else [])) ∧
      after.core.traps = m.core.traps ∧
      ∀ more, (m.writeBlock base (bytes ++ more)).memory =
        (after.writeBlock (base + UInt16.ofNat bytes.length) more).memory := by
  intro after
  refine ⟨fun target => m.memory.read_writeBlock base target bytes, fun hlength => ?_, rfl,
    fun more => m.memory.writeBlock_append base bytes more⟩
  rw [← Memory.blockFaults_eq hlength]
  rfl

/-- Of three bytes that are written from the last address but one on, the third
comes around to address zero, and one warning is told of it. -/
theorem writeBlock_lastWriter_aroundEnd :
    let after := initial.writeBlock 0xFFFE [1, 2, 3]
    after.memory.read 0 = 3 ∧
      after.journal = initial.journal ++ faultNotices [.addressOutOfRange 0x10000] := by
  intro after
  obtain ⟨hbytes, hjournal, -⟩ := writeBlock_lastWriter initial 0xFFFE [1, 2, 3]
  refine ⟨?_, hjournal (by decide)⟩
  obtain ⟨i, hlast, hbyte⟩ | ⟨hnone, -⟩ := hbytes 0
  · have hi : i = 2 := by
      have harrives : (0xFFFE + i) % 65536 = 0 := hlast.arrives
      have hlt : i < 3 := hlast.lt
      omega
    subst hi
    exact (Option.some.inj hbyte).symm
  · exact absurd rfl (hnone 2 (by decide))

end Machine

end M68HC11
