/-!
Bytes and the big-endian words of sixteen bits they make up.

* `high`, `low` and `join`: a word taken apart and put together;
  `high_join`, `low_join` and `join_high_low` say that the two directions
  undo each other, and `toNat_join` gives the number that a pair of bytes
  stands for.
* `negative` and `signed`: a byte read in two's complement.
* `displace`: the address a signed displacement away from another one,
  modulo the size of the address space.
-/

namespace M68HC11.Word

/-! ### Taking a word apart -/

/-- The more significant byte of a word. -/
def high (w : UInt16) : UInt8 := (w / 256).toUInt8

/-- The less significant byte of a word. -/
def low (w : UInt16) : UInt8 := w.toUInt8

/-- The word with the given more and less significant bytes. -/
def join (h l : UInt8) : UInt16 := h.toUInt16 * 256 + l.toUInt16

theorem toNat_high (w : UInt16) : (high w).toNat = w.toNat / 256 := by
  have := w.toNat_lt
  simp only [high, UInt16.toNat_toUInt8, UInt16.toNat_div, UInt16.reduceToNat]
  omega

theorem toNat_low (w : UInt16) : (low w).toNat = w.toNat % 256 := by
  simp [low]

theorem toNat_join (h l : UInt8) : (join h l).toNat = h.toNat * 256 + l.toNat := by
  have := h.toNat_lt
  have := l.toNat_lt
  simp only [join, UInt16.toNat_add, UInt16.toNat_mul, UInt8.toNat_toUInt16, UInt16.reduceToNat]
  omega

@[simp] theorem high_join (h l : UInt8) : high (join h l) = h := by
  have := l.toNat_lt
  apply UInt8.toNat_inj.mp
  rw [toNat_high, toNat_join]
  omega

@[simp] theorem low_join (h l : UInt8) : low (join h l) = l := by
  have := l.toNat_lt
  apply UInt8.toNat_inj.mp
  rw [toNat_low, toNat_join]
  omega

@[simp] theorem join_high_low (w : UInt16) : join (high w) (low w) = w := by
  apply UInt16.toNat_inj.mp
  rw [toNat_join, toNat_high, toNat_low]
  omega

/-! ### Two's complement -/

/-- The number that a byte stands for in two's complement. -/
def signed (b : UInt8) : Int := if b < 0x80 then b.toNat else (b.toNat : Int) - 256

/-- A byte widened to a word that stands for the same number in two's
complement. -/
def signExtend (b : UInt8) : UInt16 := if b < 0x80 then b.toUInt16 else b.toUInt16 + 0xFF00

/-- The address that lies a signed displacement away from `base`; addresses
wrap around at both ends of the address space. -/
def displace (base : UInt16) (displacement : UInt8) : UInt16 := base + signExtend displacement

/-- A displaced address is the sum of the base and the signed displacement,
modulo the size of the address space. -/
theorem toNat_displace (base : UInt16) (d : UInt8) :
    ((displace base d).toNat : Int) = (base.toNat + signed d) % 65536 := by
  have hb := base.toNat_lt
  have hd := d.toNat_lt
  unfold displace signExtend signed
  by_cases h : d < 0x80
  · simp only [h, if_true, UInt16.toNat_add, UInt8.toNat_toUInt16]
    omega
  · have h' : 128 ≤ d.toNat := by simpa [UInt8.lt_iff_toNat_lt] using h
    simp only [h, if_false, UInt16.toNat_add, UInt8.toNat_toUInt16, UInt16.reduceToNat]
    omega

end M68HC11.Word
