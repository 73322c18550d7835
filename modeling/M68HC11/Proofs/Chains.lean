import M68HC11.Execution
import M68HC11.Proofs.Overflow
import Mathlib.Data.Nat.Digits.Defs
import Mathlib.Tactic.LinearCombination

/-!
Arithmetic on numbers of several bytes.

A sum or a difference of such numbers is worked out byte by byte, from the
least significant byte to the most significant one, by the operations that take
the carry: each takes it from the one before.

* `Bytes.number`, `Bytes.signed`: what a list of bytes stands for, without a
  sign and in two's complement;
* `Instruction.combineEach`: an operation executed once for each pair of bytes;
* `Arithmetic.Carries`: the operations that add their operand and the carry, or
  subtract both; `Arithmetic.Carries.link` is one execution as an equation of
  numbers, and `number_combineEach` and `tell_combineEach` carry it along the
  bytes by induction;
* `Instruction.combineEach_exact` (**arithmetic byte by byte is exact**): the
  bytes and the codes in the end are those of the sum and the difference of the
  numbers. The operations on words agree with that for two bytes, and the
  shifts of words with a shift and a rotation of bytes.
-/

namespace M68HC11

/-! ### Numbers of several bytes -/

namespace Bytes

/-- The number with the given bytes, the least significant first. -/
def number (bytes : List UInt8) : Nat := Nat.ofDigits 256 (bytes.map UInt8.toNat)

/-- The number that the given bytes stand for in two's complement. -/
def signed (bytes : List UInt8) : Int := twosComplement (256 ^ bytes.length) (number bytes)

lemma number_cons (b : UInt8) (bytes : List UInt8) :
    number (b :: bytes) = b.toNat + 256 * number bytes :=
  Nat.ofDigits_cons ..

lemma number_lt (bytes : List UInt8) : number bytes < 256 ^ bytes.length := by
  induction bytes with
  | nil => simp [number]
  | cons b bytes ih =>
      have hb := b.toNat_lt
      rw [number_cons, List.length_cons, pow_succ]
      omega

/-- There are as many positive numbers of several bytes as negative ones. -/
lemma exists_half {count : Nat} (h : count ≠ 0) : ∃ half, 256 ^ count = 2 * half := by
  obtain ⟨count, rfl⟩ := Nat.exists_eq_succ_of_ne_zero h
  exact ⟨128 * 256 ^ count, by rw [pow_succ]; omega⟩

/-- The sign of a number of several bytes is that of the most significant. -/
lemma signed_cons (b : UInt8) {bytes : List UInt8} (h : bytes ≠ []) :
    signed (b :: bytes) = b.toNat + 256 * signed bytes := by
  have hb := b.toNat_lt
  obtain ⟨half, hhalf⟩ := exists_half (mt List.length_eq_zero_iff.mp h)
  rw [signed, signed, List.length_cons, pow_succ, hhalf, number_cons]
  unfold twosComplement
  split <;> split <;> omega

/-- Numbers of as many bytes differ if their bytes do. -/
lemma number_inj {xs ys : List UInt8} (hlength : xs.length = ys.length)
    (h : number xs = number ys) : xs = ys := by
  induction xs generalizing ys with
  | nil => exact (List.length_eq_zero_iff.mp hlength.symm).symm
  | cons x xs ih =>
      obtain ⟨y, ys, rfl⟩ := List.exists_cons_of_length_eq_add_one hlength.symm
      have hx := x.toNat_lt
      have hy := y.toNat_lt
      rw [number_cons, number_cons] at h
      rw [UInt8.toNat_inj.mp (by omega : x.toNat = y.toNat),
        ih (Nat.succ.inj hlength) (by omega)]

/-- The two bytes of a word make up the word. -/
lemma number_word (w : UInt16) : number [Word.low w, Word.high w] = w.toNat := by
  rw [number_cons, number_cons, Word.toNat_low, Word.toNat_high]
  simp only [number, List.map_nil, Nat.ofDigits_nil]
  omega

lemma signed_word (w : UInt16) :
    signed [Word.low w, Word.high w] = twosComplement 65536 w.toNat := by
  rw [signed, number_word, List.length_cons, List.length_singleton, Nat.pow_succ, Nat.pow_one]

lemma signed_singleton (b : UInt8) : signed [b] = twosComplement 256 b.toNat := by
  simp [signed, number]

end Bytes

/-- A less significant byte does not decide whether a number is in range. -/
lemma fitsSigned_byte_add {count : Nat} (h : count ≠ 0) (b : UInt8) (z : Int) :
    FitsSigned (256 ^ (count + 1)) (b.toNat + 256 * z) ↔ FitsSigned (256 ^ count) z := by
  have hb := b.toNat_lt
  obtain ⟨half, hhalf⟩ := Bytes.exists_half h
  rw [pow_succ, hhalf]
  unfold FitsSigned
  omega

/-! ### One byte after the other -/

namespace Instruction

/-- The bytes that an operation leaves in an accumulator, and the registers in
the end, if it is executed for one pair of bytes after the other: the
accumulator holds the first of a pair and the operand is the second. -/
def combineEach (op : Arithmetic) (which : Accumulator) (r : Registers) :
    List (UInt8 × UInt8) → List UInt8 × Registers
  | [] => ([], r)
  | (left, right) :: pairs =>
    let after := (combine op which (r.putAccumulator which left) (.ofValue right)).registers
    let rest := combineEach op which after pairs
    (after.accumulator which :: rest.1, rest.2)

end Instruction

/-- An operation that adds its operand and the carry (`sign` is 1) or subtracts
both (`sign` is -1). -/
structure Arithmetic.Carries (op : Arithmetic) (sign : Int) : Prop where
  sign_eq : sign = 1 ∨ sign = -1
  exists_apply : ∀ cc left right, ∃ value codes, op.apply cc left right = (some value, codes) ∧
    (value.toNat : Int) = (left.toNat + sign * (right.toNat + cc.c.toNat)) % 256 ∧
    codes.Tell 256 (left.toNat + sign * (right.toNat + cc.c.toNat))
      (twosComplement 256 left.toNat + sign * (twosComplement 256 right.toNat + cc.c.toNat))

namespace Arithmetic

lemma carries_addCarry : Carries .addCarry 1 := by
  refine ⟨.inl rfl, fun cc left right => ⟨_, _, rfl, ?_, ?_⟩⟩
  · rw [one_mul]
    exact toNat_add cc left right cc.c
  · rw [one_mul, one_mul]
    exact tell_add cc left right cc.c

lemma carries_subtractCarry : Carries .subtractCarry (-1) := by
  refine ⟨.inr rfl, fun cc left right => ⟨_, _, rfl, ?_, ?_⟩⟩
  · rw [neg_one_mul, ← sub_eq_add_neg]
    exact toNat_subtract cc left right cc.c
  · rw [neg_one_mul, neg_one_mul, ← sub_eq_add_neg, ← sub_eq_add_neg]
    exact tell_subtract cc left right cc.c

variable {op : Arithmetic} {sign : Int}

/-- One execution as an equation of numbers: the byte in the accumulator and
the carry are the exact result. -/
lemma Carries.link (h : op.Carries sign) (which : Accumulator) (r : Registers)
    (left right : UInt8) :
    let after := (Instruction.combine op which (r.putAccumulator which left)
      (.ofValue right)).registers
    ((after.accumulator which).toNat : Int) + sign * (256 * after.cc.c.toNat) =
        left.toNat + sign * (right.toNat + r.cc.c.toNat) ∧
      after.cc.Tell 256 (left.toNat + sign * (right.toNat + r.cc.c.toNat))
        (twosComplement 256 left.toNat +
          sign * (twosComplement 256 right.toNat + r.cc.c.toNat)) ∧
      (after.cc.n = true ↔ 128 ≤ (after.accumulator which).toNat) := by
  intro after
  obtain ⟨value, codes, happly, hvalue, htell⟩ := h.exists_apply r.cc left right
  have hafter : after = { r with cc := codes }.putAccumulator which value := by
    cases which <;> simp only [after, Instruction.combine, Registers.putAccumulator,
      Registers.accumulator, Reading.ofValue, Effect.ofReading, happly]
  have haccumulator : after.accumulator which = value := by
    rw [hafter, Registers.accumulator_putAccumulator]
  have hcodes : after.cc = codes := by rw [hafter]; cases which <;> rfl
  rw [haccumulator, hcodes]
  have hleft := left.toNat_lt
  have hright := right.toNat_lt
  have hcarry := r.cc.c.toNat_le
  have hout := htell.carry
  refine ⟨?_, htell, htell.negative.trans ?_⟩
  · rcases h.sign_eq with rfl | rfl <;> cases hc : codes.c <;>
      simp only [hc, Bool.toNat_false, Bool.toNat_true, Bool.false_eq_true, true_iff,
        false_iff] at hout ⊢ <;> omega
  · omega

end Arithmetic

namespace Instruction

open Bytes

variable {op : Arithmetic} {sign : Int} (which : Accumulator)

/-- There is a byte for every pair. -/
@[simp] lemma length_combineEach (op : Arithmetic) (r : Registers)
    (pairs : List (UInt8 × UInt8)) :
    (combineEach op which r pairs).1.length = pairs.length := by
  induction pairs generalizing r with
  | nil => rfl
  | cons pair pairs ih => rw [combineEach, List.length_cons, ih, List.length_cons]

/-- All bytes and the last carry together are the exact result. -/
lemma number_combineEach (h : op.Carries sign) (r : Registers) (pairs : List (UInt8 × UInt8)) :
    (number (combineEach op which r pairs).1 : Int) +
        sign * ((256 ^ pairs.length : Nat) * (combineEach op which r pairs).2.cc.c.toNat) =
      number (pairs.map (·.1)) + sign * (number (pairs.map (·.2)) + r.cc.c.toNat) := by
  induction pairs generalizing r with
  | nil => simp [combineEach, number]
  | cons pair pairs ih =>
      obtain ⟨left, right⟩ := pair
      obtain ⟨hlink, -, -⟩ := h.link which r left right
      have hrest := ih (combine op which (r.putAccumulator which left) (.ofValue right)).registers
      rw [combineEach, List.map_cons, List.map_cons, number_cons, number_cons, number_cons,
        List.length_cons, pow_succ]
      push_cast at hrest ⊢
      linear_combination hlink + 256 * hrest

/-- The sign and the overflow in the end are those of the whole numbers. -/
lemma signs_combineEach (h : op.Carries sign) (r : Registers) {pairs : List (UInt8 × UInt8)}
    (hpairs : pairs ≠ []) :
    ((combineEach op which r pairs).2.cc.n = true ↔
        256 ^ pairs.length ≤ 2 * number (combineEach op which r pairs).1) ∧
      ((combineEach op which r pairs).2.cc.v = true ↔
        ¬FitsSigned (256 ^ pairs.length)
          (signed (pairs.map (·.1)) + sign * (signed (pairs.map (·.2)) + r.cc.c.toNat))) := by
  induction pairs generalizing r with
  | nil => exact absurd rfl hpairs
  | cons pair pairs ih =>
      obtain ⟨left, right⟩ := pair
      obtain ⟨hlink, htell, hnegative⟩ := h.link which r left right
      set after := (combine op which (r.putAccumulator which left) (.ofValue right)).registers
        with hafter
      rw [combineEach, ← hafter, number_cons]
      by_cases hrest : pairs = []
      · subst hrest
        refine ⟨hnegative.trans ?_, ?_⟩
        · simp only [combineEach, number, List.map_nil, Nat.ofDigits_nil, List.length_singleton]
          omega
        · simpa only [combineEach, List.map_cons, List.map_nil, signed_singleton,
            List.length_singleton, pow_one] using htell.overflow
      · -- The byte in front decides neither the sign nor the range.
        obtain ⟨hsign, hoverflow⟩ := ih after hrest
        have hcount := mt List.length_eq_zero_iff.mp hrest
        obtain ⟨half, hhalf⟩ := exists_half hcount
        have hbyte := (after.accumulator which).toNat_lt
        refine ⟨hsign.trans ?_, hoverflow.trans (not_congr ?_)⟩
        · rw [List.length_cons, pow_succ, hhalf]
          omega
        · rw [List.map_cons, List.map_cons, signed_cons left (by simpa using hrest),
            signed_cons right (by simpa using hrest), List.length_cons,
            ← fitsSigned_byte_add hcount (after.accumulator which)]
          refine iff_of_eq (congrArg (FitsSigned _) ?_)
          linear_combination hlink

/-- The bytes are the exact result modulo the power of 256 they have room
for. -/
lemma number_combineEach_emod (h : op.Carries sign) (r : Registers)
    (pairs : List (UInt8 × UInt8)) :
    (number (combineEach op which r pairs).1 : Int) =
      (number (pairs.map (·.1)) + sign * (number (pairs.map (·.2)) + r.cc.c.toNat)) %
        (256 ^ pairs.length : Nat) := by
  have hlt := number_lt (combineEach op which r pairs).1
  rw [length_combineEach] at hlt
  rw [← number_combineEach which h r pairs, mul_left_comm, Int.add_mul_emod_self_left,
    Int.emod_eq_of_lt (Int.natCast_nonneg _) (by exact_mod_cast hlt)]

/-- The codes in the end tell the truth about the whole numbers. -/
lemma tell_combineEach (h : op.Carries sign) (r : Registers) {pairs : List (UInt8 × UInt8)}
    (hpairs : pairs ≠ []) :
    (combineEach op which r pairs).2.cc.Tell (256 ^ pairs.length)
      (number (pairs.map (·.1)) + sign * (number (pairs.map (·.2)) + r.cc.c.toNat))
      (signed (pairs.map (·.1)) + sign * (signed (pairs.map (·.2)) + r.cc.c.toNat)) := by
  obtain ⟨hsign, hoverflow⟩ := signs_combineEach which h r hpairs
  have hlt := number_lt (combineEach op which r pairs).1
  rw [length_combineEach] at hlt
  refine ⟨?_, hsign.trans ?_, hoverflow⟩
  · rw [← number_combineEach which h r pairs]
    generalize 256 ^ pairs.length = modulus at hlt
    rcases h.sign_eq with rfl | rfl <;>
      cases (combineEach op which r pairs).2.cc.c <;> simp <;> omega
  · rw [← number_combineEach_emod which h r pairs]
    omega

/-- Adding with carry along the bytes adds the numbers. -/
lemma combineEach_addCarry (r : Registers) {pairs : List (UInt8 × UInt8)} (hpairs : pairs ≠ []) :
    let lefts := pairs.map (·.1)
    let rights := pairs.map (·.2)
    let carry := r.cc.c.toNat
    let modulus := 256 ^ pairs.length
    let sum := combineEach .addCarry which r pairs
    number sum.1 = (number lefts + number rights + carry) % modulus ∧
      (sum.2.cc.c = true ↔ modulus ≤ number lefts + number rights + carry) ∧
      (sum.2.cc.n = true ↔ modulus ≤ 2 * number sum.1) ∧
      (sum.2.cc.v = true ↔ ¬FitsSigned modulus (signed lefts + signed rights + carry)) := by
  intro lefts rights carry modulus sum
  have hnumber := number_combineEach_emod which Arithmetic.carries_addCarry r pairs
  have hcodes := tell_combineEach which Arithmetic.carries_addCarry r hpairs
  simp only [one_mul, ← add_assoc] at hnumber hcodes
  refine ⟨by exact_mod_cast hnumber, hcodes.carry.trans ?_,
    (signs_combineEach which Arithmetic.carries_addCarry r hpairs).1, hcodes.overflow⟩
  simp only [lefts, rights, carry, modulus]
  omega

/-- Subtracting with borrow along the bytes subtracts the numbers. -/
lemma combineEach_subtractCarry (r : Registers) {pairs : List (UInt8 × UInt8)}
    (hpairs : pairs ≠ []) :
    let lefts := pairs.map (·.1)
    let rights := pairs.map (·.2)
    let borrow := r.cc.c.toNat
    let modulus := 256 ^ pairs.length
    let difference := combineEach .subtractCarry which r pairs
    (number difference.1 : Int) =
        ((number lefts : Int) - number rights - borrow) % (modulus : Nat) ∧
      (difference.2.cc.c = true ↔ number lefts < number rights + borrow) ∧
      (difference.2.cc.n = true ↔ modulus ≤ 2 * number difference.1) ∧
      (difference.2.cc.v = true ↔
        ¬FitsSigned modulus (signed lefts - signed rights - borrow)) := by
  intro lefts rights borrow modulus difference
  have hnumber := number_combineEach_emod which Arithmetic.carries_subtractCarry r pairs
  have hcodes := tell_combineEach which Arithmetic.carries_subtractCarry r hpairs
  have hlt : number lefts < 256 ^ pairs.length := by simpa [lefts] using number_lt lefts
  simp only [neg_one_mul, ← sub_eq_add_neg, ← sub_sub] at hnumber hcodes
  refine ⟨hnumber, hcodes.carry.trans ?_,
    (signs_combineEach which Arithmetic.carries_subtractCarry r hpairs).1, hcodes.overflow⟩
  simp only [lefts, rights, borrow] at hlt ⊢
  omega

/-! ### Words as two bytes -/

/-- A sum or a difference of words is that of their bytes, the carry being
clear before. -/
lemma words_combineEach (h : op.Carries sign) {r : Registers} (hclear : r.cc.c = false)
    (left right : UInt16) (result : UInt16 × ConditionCodes)
    (hvalue : (result.1.toNat : Int) = (left.toNat + sign * right.toNat) % 65536)
    (htell : result.2.Tell 65536 (left.toNat + sign * right.toNat)
      (twosComplement 65536 left.toNat + sign * twosComplement 65536 right.toNat)) :
    let two := combineEach op which r
      [(Word.low left, Word.low right), (Word.high left, Word.high right)]
    two.1 = [Word.low result.1, Word.high result.1] ∧
      two.2.cc.c = result.2.c ∧ two.2.cc.n = result.2.n ∧ two.2.cc.v = result.2.v := by
  intro two
  have hnumber := number_combineEach_emod which h r
    [(Word.low left, Word.low right), (Word.high left, Word.high right)]
  have hcodes := tell_combineEach which h r
    (List.cons_ne_nil (Word.low left, Word.low right) [(Word.high left, Word.high right)])
  simp only [List.map_cons, List.map_nil, number_word, signed_word, hclear, Bool.toNat_false,
    Nat.cast_zero, add_zero, List.length_cons, List.length_nil] at hnumber hcodes
  refine ⟨?_, hcodes.unique htell⟩
  refine number_inj ((length_combineEach ..).trans rfl) ?_
  rw [number_word]
  exact_mod_cast hnumber.trans hvalue.symm

end Instruction

/-! ### Shifts of a word as shifts of its bytes -/

namespace Word

/-- A word shifted left is its lower byte shifted left and its upper byte
rotated. -/
lemma join_mul_two (a b : UInt8) :
    join (a * 2 + if isNegative b then 1 else 0) (b * 2) = join a b * 2 := by
  have ha := a.toNat_lt
  have hb := b.toNat_lt
  apply UInt16.toNat_inj.mp
  simp only [isNegative_iff]
  split <;> simp only [toNat_join, UInt8.toNat_add, UInt8.toNat_mul, UInt16.toNat_mul,
    UInt8.reduceToNat, UInt16.reduceToNat] <;> omega

/-- A word shifted right is its upper byte shifted right and its lower byte
rotated. -/
lemma join_div_two (a b : UInt8) :
    join (a / 2) (b / 2 + (if a % 2 == 1 then 1 else 0) * 0x80) = join a b / 2 := by
  have ha := a.toNat_lt
  have hb := b.toNat_lt
  have hcarry : (a % 2 == 1) = true ↔ a.toNat % 2 = 1 := by simp [← UInt8.toNat_inj]
  apply UInt16.toNat_inj.mp
  simp only [hcarry]
  split <;> simp only [toNat_join, UInt8.toNat_add, UInt8.toNat_mul, UInt8.toNat_div,
    UInt16.toNat_div, UInt8.reduceToNat, UInt16.reduceToNat] <;> omega

/-- The highest bit of a word is that of its upper byte. -/
lemma isNegativeWord_join (a b : UInt8) : isNegativeWord (join a b) = isNegative a := by
  have hb := b.toNat_lt
  rw [Bool.eq_iff_iff, isNegativeWord_iff, isNegative_iff, toNat_join]
  omega

/-- The lowest bit of a word is that of its lower byte. -/
lemma isOdd_join (a b : UInt8) : (join a b % 2 == 1) = (b % 2 == 1) := by
  rw [Bool.eq_iff_iff]
  simp only [beq_iff_eq, ← UInt16.toNat_inj, ← UInt8.toNat_inj, UInt16.toNat_mod,
    UInt8.toNat_mod, toNat_join, UInt16.reduceToNat, UInt8.reduceToNat]
  omega

end Word

/-- What a shift of the double accumulator comes to: one accumulator is shifted
and then the carry is rotated into the other. -/
def ShiftDirection.halves :
    ShiftDirection → (Modification × Accumulator) × Modification × Accumulator
  | .left => ((.shiftLeft, .b), .rotateLeft, .a)
  | .right => ((.logicalShiftRight, .a), .rotateRight, .b)

namespace Instruction

/-- An accumulator that is changed in place. -/
lemma registers_modify {i : Instruction} {op : Modification} {which : Accumulator}
    (hoperation : i.encoding.operation = .modify op) (hoperand : i.operand = .accumulator which)
    (hclear : op ≠ .clear) {r : Registers} {value : UInt8} {codes : ConditionCodes}
    (happly : op.apply r.cc (r.accumulator which) = (some value, codes)) (m : Memory) :
    (i.effect r m).registers = { r with cc := codes }.putAccumulator which value := by
  simp only [effect, hoperation, change, if_neg hclear, hoperand, Operand.readByte,
    Reading.ofValue, happly]
  rfl

/-- The double accumulator that is shifted. -/
lemma registers_shiftWord {i : Instruction} {direction : ShiftDirection}
    (hoperation : i.encoding.operation = .shiftWord direction) (r : Registers) (m : Memory) :
    (i.effect r m).registers =
      { r with cc := (direction.apply r.cc r.d).2 }.putD (direction.apply r.cc r.d).1 := by
  simp only [effect, hoperation]
  rfl

/-- A shift of the double accumulator leaves there and in the carry what a
shift and a rotation of its bytes leave. -/
lemma shiftWord_eq_halves {direction : ShiftDirection} {i first second : Instruction}
    (hoperation : i.encoding.operation = .shiftWord direction)
    (hfirst : first.encoding.operation = .modify direction.halves.1.1)
    (hnear : first.operand = .accumulator direction.halves.1.2)
    (hsecond : second.encoding.operation = .modify direction.halves.2.1)
    (hfar : second.operand = .accumulator direction.halves.2.2) (r : Registers) (m : Memory) :
    let whole := (i.effect r m).registers
    let halves := (second.effect (first.effect r m).registers m).registers
    whole.d = halves.d ∧ whole.cc.c = halves.cc.c := by
  intro whole halves
  simp only [whole, halves, registers_shiftWord hoperation, Registers.d_putD]
  cases direction with
  | left =>
      rw [registers_modify hsecond hfar (by decide) rfl,
        registers_modify hfirst hnear (by decide) rfl]
      exact ⟨(Word.join_mul_two r.a r.b).symm, Word.isNegativeWord_join r.a r.b⟩
  | right =>
      rw [registers_modify hsecond hfar (by decide) rfl,
        registers_modify hfirst hnear (by decide) rfl]
      exact ⟨(Word.join_div_two r.a r.b).symm, Word.isOdd_join r.a r.b⟩

open Bytes

/-- **Arithmetic byte by byte is exact**: adding with carry along the bytes of
two numbers, from the least significant byte on, leaves the bytes of the sum
modulo the power of 256 they have room for. In the end the carry tells whether
the sum has room, the sign flag is its highest bit, and the overflow flag tells
whether the sum in two's complement is out of range. Subtracting with borrow
does the same for the difference. With two bytes and a clear carry both agree
with the operations on words, and a shift of a word with a shift and a rotation
of its bytes. -/
theorem combineEach_exact (which : Accumulator) (r : Registers) :
    (∀ pairs : List (UInt8 × UInt8), pairs ≠ [] →
      let lefts := pairs.map (·.1)
      let rights := pairs.map (·.2)
      let carry := r.cc.c.toNat
      let modulus := 256 ^ pairs.length
      let sum := combineEach .addCarry which r pairs
      let difference := combineEach .subtractCarry which r pairs
      (sum.1.length = pairs.length ∧
        number sum.1 = (number lefts + number rights + carry) % modulus ∧
        (sum.2.cc.c = true ↔ modulus ≤ number lefts + number rights + carry) ∧
        (sum.2.cc.n = true ↔ modulus ≤ 2 * number sum.1) ∧
        (sum.2.cc.v = true ↔ ¬FitsSigned modulus (signed lefts + signed rights + carry))) ∧
      difference.1.length = pairs.length ∧
        (number difference.1 : Int) =
          ((number lefts : Int) - number rights - carry) % (modulus : Nat) ∧
        (difference.2.cc.c = true ↔ number lefts < number rights + carry) ∧
        (difference.2.cc.n = true ↔ modulus ≤ 2 * number difference.1) ∧
        (difference.2.cc.v = true ↔
          ¬FitsSigned modulus (signed lefts - signed rights - carry))) ∧
    (r.cc.c = false → ∀ (i : Instruction) (s : Registers) (m : Memory),
      let operand := (i.operand.readWord s m).value
      let pairs := [(s.b, Word.low operand), (s.a, Word.high operand)]
      let sum := combineEach .addCarry which r pairs
      let difference := combineEach .subtractCarry which r pairs
      let after := (i.effect s m).registers
      (i.encoding.operation = .addWord → sum.1 = [after.b, after.a] ∧
        sum.2.cc.c = after.cc.c ∧ sum.2.cc.n = after.cc.n ∧ sum.2.cc.v = after.cc.v) ∧
      (i.encoding.operation = .subtractWord → difference.1 = [after.b, after.a] ∧
        difference.2.cc.c = after.cc.c ∧ difference.2.cc.n = after.cc.n ∧
          difference.2.cc.v = after.cc.v)) ∧
    ∀ (direction : ShiftDirection) (i first second : Instruction),
      i.encoding.operation = .shiftWord direction →
      first.encoding.operation = .modify direction.halves.1.1 →
      first.operand = .accumulator direction.halves.1.2 →
      second.encoding.operation = .modify direction.halves.2.1 →
      second.operand = .accumulator direction.halves.2.2 → ∀ (s : Registers) (m : Memory),
        let whole := (i.effect s m).registers
        let halves := (second.effect (first.effect s m).registers m).registers
        whole.d = halves.d ∧ whole.cc.c = halves.cc.c := by
  refine ⟨fun pairs hpairs => ⟨⟨length_combineEach .., combineEach_addCarry which r hpairs⟩,
      length_combineEach .., combineEach_subtractCarry which r hpairs⟩,
    fun hclear i s m => ⟨fun hadd => ?_, fun hsubtract => ?_⟩,
    fun direction i first second hi hfirst hnear hsecond hfar =>
      shiftWord_eq_halves hi hfirst hnear hsecond hfar⟩
  · have hwords := words_combineEach which Arithmetic.carries_addCarry hclear s.d
      (i.operand.readWord s m).value (addWord s.cc s.d (i.operand.readWord s m).value)
      (by rw [one_mul]; exact toNat_addWord ..)
      (by rw [one_mul, one_mul]; exact tell_addWord ..)
    simp only [Registers.d, Word.low_join, Word.high_join] at hwords
    simp only [effect, hadd]
    exact hwords
  · have hwords := words_combineEach which Arithmetic.carries_subtractCarry hclear s.d
      (i.operand.readWord s m).value (subtractWord s.cc s.d (i.operand.readWord s m).value)
      (by rw [neg_one_mul, ← sub_eq_add_neg]; exact toNat_subtractWord ..)
      (by rw [neg_one_mul, neg_one_mul, ← sub_eq_add_neg, ← sub_eq_add_neg]
          exact tell_subtractWord ..)
    simp only [Registers.d, Word.low_join, Word.high_join] at hwords
    simp only [effect, hsubtract]
    exact hwords

/-- One more than the greatest positive number of two bytes: the carry of the
less significant bytes arrives in the sign. -/
theorem combineEach_exact_intoSign :
    let pairs := [((0xFF, 0x01) : UInt8 × UInt8), (0x7F, 0x00)]
    let sum := combineEach .addCarry .a .reset pairs
    pairs ≠ [] ∧ number sum.1 = 0x8000 ∧ sum.2.cc.c = false ∧ sum.2.cc.n = true ∧
      sum.2.cc.v = true := by
  intro pairs sum
  have hpairs : pairs ≠ [] := List.cons_ne_nil _ _
  obtain ⟨⟨-, hnumber, hcarry, hsign, hoverflow⟩, -⟩ :=
    (combineEach_exact .a .reset).1 pairs hpairs
  have hsum : number sum.1 = 0x8000 := hnumber.trans (by decide)
  refine ⟨hpairs, hsum, Bool.eq_false_iff.mpr (mt hcarry.mp (by decide)), hsign.mpr ?_,
    hoverflow.mpr (by decide)⟩
  rw [hsum]
  decide

end Instruction

end M68HC11
