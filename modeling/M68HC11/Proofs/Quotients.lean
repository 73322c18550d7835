import M68HC11.Core
import M68HC11.Proofs.Overflow

/-!
Products and quotients.

A product of two bytes has room in a word. A quotient may not have: a
fractional one counts in parts of 65536, so its dividend is a number of 32 bits,
and what is left of the quotient says nothing once it has overflowed. The
remainder always has room, because it is below the divisor.

* `Division.scaled` is the number that is divided, and `Quotient.Divides` says
  what a quotient, its remainder and their flags are for it, whatever its scale:
  `Division.divides_apply`. The equation of the division holds as long as the
  overflow flag is clear (`Quotient.Divides.mul_add`);
* `toNat_multiply` and `c_multiply`: a product, and its carry, which tells whether
  the upper byte is to be rounded up; `add_carry_multiply`: adding the carry there
  rounds to parts of 256;
* `Core.products_quotients` (**multiplication and division are exact**) says so
  of the steps.
-/

namespace M68HC11

/-! ### Quotients -/

/-- The number that is divided: a fractional quotient counts in parts of
65536. -/
def Division.scaled (kind : Division) (dividend : UInt16) : Nat :=
  match kind with
  | .integer => dividend.toNat
  | .fractional => dividend.toNat * 65536

/-- Whether a quotient with its remainder and flags is that of `dividend` by
`divisor`, of which only sixteen bits are kept. -/
structure Quotient.Divides (q : Quotient) (dividend divisor : Nat) : Prop where
  quotient : q.quotient.toNat = dividend / divisor % 65536
  remainder : q.remainder.toNat = dividend % divisor
  zero : q.codes.z = true ↔ q.quotient.toNat = 0
  carry : q.codes.c = true ↔ q.remainder.toNat ≠ 0
  overflow : q.codes.v = true ↔ 65536 ≤ dividend / divisor

/-- A quotient without overflow and its remainder give the dividend back. -/
lemma Quotient.Divides.mul_add {q : Quotient} {dividend divisor : Nat}
    (h : q.Divides dividend divisor) (hfits : q.codes.v = false) :
    q.quotient.toNat * divisor + q.remainder.toNat = dividend := by
  have hlt : dividend / divisor < 65536 := by
    rw [← Nat.not_le, ← h.overflow, hfits]
    exact Bool.false_ne_true
  rw [h.quotient, h.remainder, Nat.mod_eq_of_lt hlt, Nat.div_add_mod']

namespace Division

variable (cc : ConditionCodes) (dividend : UInt16)

/-- A division by a number that is not zero. -/
lemma divides_apply (kind : Division) {divisor : UInt16} (h : divisor ≠ 0) :
    (kind.apply cc dividend divisor).Divides (kind.scaled dividend) divisor.toNat := by
  have hdivisor := divisor.toNat_lt
  have hdividend := dividend.toNat_lt
  have hpos : 0 < divisor.toNat :=
    Nat.pos_of_ne_zero fun hzero => h (UInt16.toNat_inj.mp hzero)
  have hrest (n : Nat) : n % divisor.toNat < 65536 := Nat.lt_trans (Nat.mod_lt n hpos) hdivisor
  have hzero (w : UInt16) : (w == 0) = true ↔ w.toNat = 0 :=
    beq_iff_eq.trans UInt16.toNat_inj.symm
  cases kind with
  | integer =>
      have hquotient : dividend.toNat / divisor.toNat < 65536 :=
        Nat.lt_of_le_of_lt (Nat.div_le_self ..) hdividend
      simp only [apply, if_neg h, scaled]
      refine ⟨?_, UInt16.toNat_mod .., hzero _, ?_, ?_⟩
      · rw [UInt16.toNat_div, Nat.mod_eq_of_lt hquotient]
      · rw [bne_iff_ne, ne_eq, ← UInt16.toNat_inj]
        rfl
      · simpa using hquotient
  | fractional =>
      simp only [apply, if_neg h, scaled]
      refine ⟨UInt16.toNat_ofNat', ?_, hzero _, ?_, ?_⟩
      · rw [UInt16.toNat_ofNat', Nat.mod_eq_of_lt (hrest _)]
      · rw [bne_iff_ne, UInt16.toNat_ofNat', Nat.mod_eq_of_lt (hrest _)]
      · rw [decide_eq_true_eq]
        exact Nat.lt_iff_add_one_le

/-- A fractional quotient overflows exactly if the divisor is not greater than
the dividend. -/
lemma le_scaled_fractional_iff {divisor : Nat} (h : divisor ≠ 0) :
    65536 ≤ fractional.scaled dividend / divisor ↔ divisor ≤ dividend.toNat := by
  rw [scaled, Nat.le_div_iff_mul_le (Nat.pos_of_ne_zero h)]
  omega

/-- An integer quotient does not overflow. -/
lemma v_apply_integer (divisor : UInt16) :
    (integer.apply cc dividend divisor).codes.v = false := by
  simp only [apply, divideByZero]
  split <;> rfl

end Division

/-! ### Products -/

section Products

variable (cc : ConditionCodes) (left right : UInt8)

/-- A product of two bytes has room in a word. -/
lemma toNat_multiply : (multiply cc left right).1.toNat = left.toNat * right.toNat := by
  have hle : left.toNat * right.toNat ≤ 255 * 255 :=
    Nat.mul_le_mul (Nat.le_of_lt_succ left.toNat_lt) (Nat.le_of_lt_succ right.toNat_lt)
  simp only [multiply, UInt16.toNat_mul, UInt8.toNat_toUInt16]
  exact Nat.mod_eq_of_lt (Nat.lt_of_le_of_lt hle (by decide))

/-- The carry of a product is the highest bit of its lower byte. -/
lemma c_multiply :
    (multiply cc left right).2.c = true ↔ 128 ≤ left.toNat * right.toNat % 256 := by
  rw [← toNat_multiply cc, ← Word.toNat_low]
  exact isNegative_iff _

/-- The carry of a product, added to its upper byte, rounds the product to
parts of 256, and there is no carry out of that. -/
lemma add_carry_multiply (cc' : ConditionCodes) :
    let product := multiply cc left right
    let rounded := add cc' (Word.high product.1) 0 product.2.c
    rounded.1.toNat = (left.toNat * right.toNat + 128) / 256 ∧ rounded.2.c = false := by
  intro product rounded
  have hle : left.toNat * right.toNat ≤ 255 * 255 :=
    Nat.mul_le_mul (Nat.le_of_lt_succ left.toNat_lt) (Nat.le_of_lt_succ right.toNat_lt)
  have hup : product.2.c.toNat = 1 ∧ 128 ≤ left.toNat * right.toNat % 256 ∨
      product.2.c.toNat = 0 ∧ left.toNat * right.toNat % 256 < 128 := by
    have hround : product.2.c = true ↔ _ := c_multiply cc left right
    cases hcarry : product.2.c with
    | true => exact .inl ⟨rfl, hround.mp hcarry⟩
    | false => exact .inr ⟨rfl, Nat.not_le.mp (mt hround.mpr (Bool.eq_false_iff.mp hcarry))⟩
  have hvalue : (rounded.1.toNat : Int) = _ := toNat_add cc' (Word.high product.1) 0 product.2.c
  have hcarry : rounded.2.c = true ↔ _ :=
    (tell_add cc' (Word.high product.1) 0 product.2.c).carry
  rw [Word.toNat_high, toNat_multiply, UInt8.toNat_zero] at hvalue hcarry
  generalize left.toNat * right.toNat = exact at hle hup hvalue hcarry ⊢
  exact ⟨by omega, Bool.eq_false_iff.mpr (mt hcarry.mp (by omega))⟩

end Products

/-! ### Steps that multiply and divide -/

namespace Registers

/-- A quotient with its remainder and flags, where a division leaves them. -/
def quotient (r : Registers) : Quotient := ⟨r.x, r.d, r.cc⟩

@[simp] lemma d_charge (r : Registers) (cycles : UInt64) : (r.charge cycles).d = r.d := rfl

@[simp] lemma quotient_charge (r : Registers) (cycles : UInt64) :
    (r.charge cycles).quotient = r.quotient := rfl

/-- The registers in which a quotient was put hold it. -/
lemma quotient_put (r : Registers) (q : Quotient) :
    ({ r with x := q.quotient, cc := q.codes }.putD q.remainder).quotient = q := by
  rw [quotient, d_putD]
  rfl

end Registers

namespace Processor

variable {p : Processor} {e : Encoding} {i : Instruction}

/-- The registers after a step are those that the effect leaves, with the cycles
charged. -/
lemma registers_step (h : p.memory.instruction? p.fetch = some i) :
    p.step.processor.registers =
      (i.effect (advance p.registers p.fetch) p.memory).registers.charge
        (UInt64.ofNat i.encoding.cycles) := by
  rw [step, h]
  rfl

/-- The instruction of an assigned opcode. -/
lemma instruction?_eq (h : p.fetch.encoding? = some e) :
    p.memory.instruction? p.fetch = some (p.memory.complete p.fetch e) := by
  rw [Memory.instruction?, h, Option.map_some]

/-- A step that divides leaves the quotient. -/
lemma quotient_step (h : p.fetch.encoding? = some e) {kind : Division}
    (hdivide : e.operation = .divide kind) :
    p.step.processor.registers.quotient =
      kind.apply p.registers.cc p.registers.d p.registers.x := by
  simp only [registers_step (instruction?_eq h), Memory.complete, Instruction.effect, hdivide,
    Registers.quotient_charge]
  exact Registers.quotient_put _ (kind.apply p.registers.cc p.registers.d p.registers.x)

/-- What a step leaves that divides by a number that is not zero. -/
lemma divides_step (h : p.fetch.encoding? = some e) {kind : Division}
    (hdivide : e.operation = .divide kind) (hdivisor : p.registers.x.toNat ≠ 0) :
    p.step.processor.registers.quotient.Divides (kind.scaled p.registers.d)
      p.registers.x.toNat := by
  rw [quotient_step h hdivide]
  exact kind.divides_apply _ _ fun hzero => hdivisor (congrArg UInt16.toNat hzero)

/-- What a step leaves that divides by zero: the dividend. -/
lemma quotient_step_of_zero (h : p.fetch.encoding? = some e) {kind : Division}
    (hdivide : e.operation = .divide kind) (hdivisor : p.registers.x.toNat = 0) :
    let q := p.step.processor.registers.quotient
    q.quotient.toNat = 0 ∧ q.remainder = p.registers.d ∧ q.codes.z = true ∧
      (q.codes.c = true ↔ q.remainder.toNat ≠ 0) ∧
      q.codes.v = if kind = .integer then false else p.registers.cc.v := by
  have hzero : p.registers.x = 0 := UInt16.toNat_inj.mp hdivisor
  rw [quotient_step h hdivide, hzero]
  have hne : (p.registers.d != 0) = true ↔ p.registers.d.toNat ≠ 0 :=
    bne_iff_ne.trans (not_congr UInt16.toNat_inj.symm)
  cases kind <;> exact ⟨rfl, rfl, rfl, hne, rfl⟩

/-- A step that multiplies. -/
lemma step_of_multiply (h : p.fetch.encoding? = some e) (hmultiply : e.operation = .multiply) :
    let product := multiply p.registers.cc p.registers.a p.registers.b
    let after := p.step.processor.registers
    after.d = product.1 ∧ after.a = Word.high product.1 ∧ after.cc = product.2 := by
  intro product after
  simp only [after, registers_step (instruction?_eq h), Memory.complete, Instruction.effect,
    hmultiply, Registers.d_charge]
  exact ⟨Registers.d_putD _ product.1, rfl, rfl⟩

/-- A step that adds a byte that is part of the instruction to the first
accumulator, with the carry. -/
lemma step_of_addCarry (h : p.memory.instruction? p.fetch = some i)
    (hadd : i.encoding.operation = .accumulate .addCarry .a) {value : UInt8}
    (hoperand : i.operand = .byte value) :
    let sum := add p.registers.cc p.registers.a value p.registers.cc.c
    let after := p.step.processor.registers
    after.a = sum.1 ∧ after.cc = sum.2 := by
  intro sum after
  simp only [after, registers_step h, Instruction.effect, hadd, hoperand]
  exact ⟨rfl, rfl⟩

/-- A step that adds nothing but the carry to the upper byte of a product, after
the carry of the product, rounds it. -/
lemma rounded_step {cc : ConditionCodes} {left right : UInt8}
    (h : p.memory.instruction? p.fetch = some i)
    (hadd : i.encoding.operation = .accumulate .addCarry .a) (hoperand : i.operand = .byte 0)
    (ha : p.registers.a = Word.high (multiply cc left right).1)
    (hc : p.registers.cc.c = (multiply cc left right).2.c) :
    let after := p.step.processor.registers
    after.a.toNat = (left.toNat * right.toNat + 128) / 256 ∧ after.cc.c = false := by
  intro after
  obtain ⟨hsum, hcodes⟩ := step_of_addCarry h hadd hoperand
  rw [show after.a = _ from hsum, show after.cc = _ from hcodes, ha, hc]
  exact add_carry_multiply cc left right p.registers.cc

end Processor

/-- **Multiplication and division are exact**: an integer quotient times the
divisor with the remainder is the dividend, and a fractional one that of 65536
times the dividend unless it overflows, which it does exactly if the divisor is
not greater than the dividend; remainders are below the divisor, and the flags
tell whether the quotient is zero and the remainder is not. A division by zero
leaves the dividend as the remainder. A product is exact, and adding its carry
to its upper byte rounds it to parts of 256 without another carry. -/
theorem Core.products_quotients (c : Core) {e : Encoding}
    (he : c.processor.fetch.encoding? = some e) :
    let before := c.registers
    let next := c.step.core
    let after := next.registers
    let dividend := before.d.toNat
    let divisor := before.x.toNat
    let quotient := after.x.toNat
    let remainder := after.d.toNat
    let product := before.a.toNat * before.b.toNat
    (∀ kind, e.operation = .divide kind → divisor ≠ 0 →
      remainder < divisor ∧ (after.cc.z = true ↔ quotient = 0) ∧
        (after.cc.c = true ↔ remainder ≠ 0)) ∧
      (e.operation = .divide .integer → divisor ≠ 0 →
        quotient * divisor + remainder = dividend ∧ after.cc.v = false) ∧
      (e.operation = .divide .fractional → divisor ≠ 0 →
        (after.cc.v = true ↔ divisor ≤ dividend) ∧
          remainder = dividend * 65536 % divisor ∧
          quotient = dividend * 65536 / divisor % 65536 ∧
          (after.cc.v = false → quotient * divisor + remainder = dividend * 65536)) ∧
      (∀ kind, e.operation = .divide kind → divisor = 0 →
        quotient = 0 ∧ remainder = dividend ∧ after.cc.z = true ∧
          (after.cc.c = true ↔ remainder ≠ 0) ∧
          after.cc.v = if kind = .integer then false else before.cc.v) ∧
      (e.operation = .multiply →
        after.d.toNat = product ∧
          ∀ i, next.memory.instruction? next.processor.fetch = some i →
            i.encoding.operation = .accumulate .addCarry .a → i.operand = .byte 0 →
              let rounded := next.step.core.registers
              rounded.a.toNat = (product + 128) / 256 ∧ rounded.cc.c = false) := by
  intro before next after dividend divisor quotient remainder product
  refine ⟨fun kind hkind hdivisor => ?_, fun hkind hdivisor => ?_, fun hkind hdivisor => ?_,
    fun kind hkind hdivisor => ?_, fun hmultiply => ?_⟩
  · have h := Processor.divides_step he hkind hdivisor
    refine ⟨?_, h.zero, h.carry⟩
    calc remainder = kind.scaled before.d % divisor := h.remainder
      _ < divisor := Nat.mod_lt _ (Nat.pos_of_ne_zero hdivisor)
  · have hfits : after.quotient.codes.v = false :=
      (congrArg (·.codes.v) (Processor.quotient_step he hkind)).trans (Division.v_apply_integer ..)
    exact ⟨(Processor.divides_step he hkind hdivisor).mul_add hfits, hfits⟩
  · have h := Processor.divides_step he hkind hdivisor
    exact ⟨h.overflow.trans (Division.le_scaled_fractional_iff before.d hdivisor), h.remainder,
      h.quotient, h.mul_add⟩
  · obtain ⟨hquotient, hremainder, hflags⟩ := Processor.quotient_step_of_zero he hkind hdivisor
    exact ⟨hquotient, congrArg UInt16.toNat hremainder, hflags⟩
  · obtain ⟨hd, ha, hcc⟩ := Processor.step_of_multiply he hmultiply
    refine ⟨(congrArg UInt16.toNat hd).trans (toNat_multiply ..), fun i hi hadd hoperand => ?_⟩
    have hnext : next.processor = c.processor.step.processor := Core.processor_step c
    rw [← hnext] at ha hcc
    -- Opaque from here on: the second step must not unfold into the first.
    clear_value next
    exact Processor.rounded_step hi hadd hoperand ha (congrArg ConditionCodes.c hcc)

/-- One half as a fractional quotient. -/
theorem Core.products_quotients_half :
    let c : Core := ⟨⟨{ Registers.reset with b := 1, x := 2 }, Memory.zero.write 0 0x03⟩, ∅⟩
    let after := c.step.core.registers
    c.processor.fetch.encoding? = some ⟨.divide .fractional, .inherent, 41⟩ ∧
      after.cc.v = false ∧ after.x.toNat * 2 + after.d.toNat = 65536 := by
  intro c after
  have hfetch : c.processor.fetch.encoding? = some ⟨.divide .fractional, .inherent, 41⟩ := by
    decide +kernel
  have hd : c.registers.d.toNat = 1 := by decide
  have hx : c.registers.x.toNat = 2 := rfl
  clear_value c
  obtain ⟨-, -, hfractional, -⟩ := Core.products_quotients c hfetch
  rw [hd, hx] at hfractional
  obtain ⟨hoverflow, -, -, hmul_add⟩ := hfractional rfl (by decide)
  have hfits : after.cc.v = false := Bool.eq_false_iff.mpr (mt hoverflow.mp (by decide))
  exact ⟨hfetch, hfits, hmul_add hfits⟩

end M68HC11
