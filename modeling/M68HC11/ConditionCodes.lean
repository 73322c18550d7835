/-!
The condition code register: eight flags and the byte they make up.

* `toByte` and `ofByte` are inverse to each other (`ofByte_toByte`,
  `toByte_ofByte`);
* `load` replaces all flags, `setBits` and `clearBits` set and clear those
  chosen by a mask. The mask of the nonmaskable interrupt is a latch: once
  clear, none of them sets it again (`load_x`, `setBits_x`, `clearBits_x`).
-/

namespace M68HC11

/-- The flags of the condition code register, from the most significant bit
to the least: stop disable, mask of the nonmaskable interrupt, half carry,
interrupt mask, negative, zero, overflow and carry. -/
structure ConditionCodes where
  s : Bool
  x : Bool
  h : Bool
  i : Bool
  n : Bool
  z : Bool
  v : Bool
  c : Bool
  deriving DecidableEq, Repr

namespace ConditionCodes

/-- The flags after a reset: interrupts are masked and stopping is
disabled. -/
def reset : ConditionCodes :=
  ⟨true, true, false, true, false, false, false, false⟩

/-- The weight of a flag in the register's byte, or nothing if it is
clear. -/
def weigh (flag : Bool) (weight : UInt8) : UInt8 := if flag then weight else 0

/-- The flags as a byte. -/
def toByte (cc : ConditionCodes) : UInt8 :=
  weigh cc.s 0x80 + weigh cc.x 0x40 + weigh cc.h 0x20 + weigh cc.i 0x10 +
    weigh cc.n 0x08 + weigh cc.z 0x04 + weigh cc.v 0x02 + weigh cc.c 0x01

/-- The flags that a byte holds. -/
def ofByte (b : UInt8) : ConditionCodes where
  s := b &&& 0x80 != 0
  x := b &&& 0x40 != 0
  h := b &&& 0x20 != 0
  i := b &&& 0x10 != 0
  n := b &&& 0x08 != 0
  z := b &&& 0x04 != 0
  v := b &&& 0x02 != 0
  c := b &&& 0x01 != 0

/-- Reading the byte of some flags gives the flags back. -/
@[simp] theorem ofByte_toByte (cc : ConditionCodes) : ofByte cc.toByte = cc := by
  have all : ∀ s x h i n z v c : Bool,
      ofByte (toByte ⟨s, x, h, i, n, z, v, c⟩) = ⟨s, x, h, i, n, z, v, c⟩ := by decide +kernel
  exact all cc.s cc.x cc.h cc.i cc.n cc.z cc.v cc.c

/-- The flags of a byte have that byte. -/
@[simp] theorem toByte_ofByte (b : UInt8) : (ofByte b).toByte = b := by
  have all : ∀ n < 256, (ofByte (UInt8.ofNat n)).toByte = UInt8.ofNat n := by decide +kernel
  have h := all b.toNat b.toNat_lt
  rwa [UInt8.ofNat_toNat] at h

/-- Replaces the flags by those of a byte; the latch stays clear if it was. -/
def load (cc : ConditionCodes) (b : UInt8) : ConditionCodes :=
  let new := ofByte b
  { new with x := cc.x && new.x }

/-- Sets the flags of a mask; the latch is not among them. -/
def setBits (cc : ConditionCodes) (mask : UInt8) : ConditionCodes :=
  let m := ofByte mask
  { s := cc.s || m.s, x := cc.x, h := cc.h || m.h, i := cc.i || m.i,
    n := cc.n || m.n, z := cc.z || m.z, v := cc.v || m.v, c := cc.c || m.c }

/-- Clears the flags of a mask. -/
def clearBits (cc : ConditionCodes) (mask : UInt8) : ConditionCodes :=
  let m := ofByte mask
  { s := cc.s && !m.s, x := cc.x && !m.x, h := cc.h && !m.h, i := cc.i && !m.i,
    n := cc.n && !m.n, z := cc.z && !m.z, v := cc.v && !m.v, c := cc.c && !m.c }

/-- Sets or clears the flags of a mask. -/
def putBits (cc : ConditionCodes) (mask : UInt8) (on : Bool) : ConditionCodes :=
  if on then cc.setBits mask else cc.clearBits mask

/-- Whether all flags of a mask are set. -/
def covers (cc : ConditionCodes) (mask : UInt8) : Bool :=
  let m := ofByte mask
  (cc.s || !m.s) && (cc.x || !m.x) && (cc.h || !m.h) && (cc.i || !m.i) &&
    (cc.n || !m.n) && (cc.z || !m.z) && (cc.v || !m.v) && (cc.c || !m.c)

/-- Loading keeps the latch clear. -/
@[simp] theorem load_x (cc : ConditionCodes) (b : UInt8) :
    (cc.load b).x = (cc.x && (ofByte b).x) := rfl

/-- Setting bits never moves the latch. -/
@[simp] theorem setBits_x (cc : ConditionCodes) (mask : UInt8) : (cc.setBits mask).x = cc.x := rfl

/-- Clearing bits can only clear the latch. -/
@[simp] theorem clearBits_x (cc : ConditionCodes) (mask : UInt8) :
    (cc.clearBits mask).x = (cc.x && !(ofByte mask).x) := rfl

/-- Putting bits keeps the latch clear. -/
theorem putBits_x (cc : ConditionCodes) (mask : UInt8) (on : Bool) (h : cc.x = false) :
    (cc.putBits mask on).x = false := by
  cases on <;> simp [putBits, h]

end ConditionCodes

end M68HC11
