import M68HC11.Proofs.Codes
import M68HC11.Proofs.Flow
import M68HC11.Proofs.Overflow

/-!
Comparisons and the branches behind them.

A comparison subtracts its operand from a register and keeps nothing but the
condition codes. The conditions that branches test read from these how the two
numbers compare, with or without a sign.

* `Comparison` is a pair of numbers with the modulus of their width, and
  `Comparison.DecidedBy` says that each of ten conditions is the relation it is
  named for; `Comparison.decidedBy_of_tell` reads this off condition codes that
  tell the truth about the difference, for both widths;
* `Processor.dataAddress`: where the operand of an instruction stands, be it
  part of the instruction or not, and `Processor.comparison?`: the numbers that
  the instruction at the program counter compares or subtracts;
* `Core.step_comparison` (**a branch behind a comparison decides the
  relation**).
-/

namespace M68HC11

/-! ### Two numbers and the conditions on them -/

/-- Two numbers of the same width, the first of which is in a register. -/
structure Comparison where
  modulus : Nat
  left : Nat
  right : Nat
  deriving DecidableEq, Repr

namespace Comparison

/-- The first number in two's complement. -/
def signedLeft (x : Comparison) : Int := twosComplement x.modulus x.left

/-- The second number in two's complement. -/
def signedRight (x : Comparison) : Int := twosComplement x.modulus x.right

/-- Whether the conditions decide how the two numbers compare. -/
structure DecidedBy (x : Comparison) (cc : ConditionCodes) : Prop where
  higher : Condition.higher.holds cc = true ↔ x.left > x.right
  lowerOrSame : Condition.lowerOrSame.holds cc = true ↔ x.left ≤ x.right
  carryClear : Condition.carryClear.holds cc = true ↔ x.left ≥ x.right
  carrySet : Condition.carrySet.holds cc = true ↔ x.left < x.right
  greaterOrEqual : Condition.greaterOrEqual.holds cc = true ↔ x.signedLeft ≥ x.signedRight
  less : Condition.less.holds cc = true ↔ x.signedLeft < x.signedRight
  greater : Condition.greater.holds cc = true ↔ x.signedLeft > x.signedRight
  lessOrEqual : Condition.lessOrEqual.holds cc = true ↔ x.signedLeft ≤ x.signedRight
  equal : Condition.equal.holds cc = true ↔ x.left = x.right
  notEqual : Condition.notEqual.holds cc = true ↔ x.left ≠ x.right

variable {x : Comparison} {cc : ConditionCodes}

/-- Sign and overflow differ exactly if the difference of the numbers in two's
complement is negative: what overflows has the wrong sign. -/
lemma negative_ne_overflow_iff (hmodulus : x.modulus = 256 ∨ x.modulus = 65536)
    (hleft : x.left < x.modulus) (hright : x.right < x.modulus)
    (h : cc.Tell x.modulus (x.left - x.right) (x.signedLeft - x.signedRight)) :
    cc.n ≠ cc.v ↔ x.signedLeft < x.signedRight := by
  rw [ne_eq, Bool.eq_iff_iff, h.negative, h.overflow]
  unfold FitsSigned signedLeft signedRight twosComplement
  rcases hmodulus with hmodulus | hmodulus <;> rw [hmodulus] at hleft hright ⊢ <;>
    split <;> split <;> omega

/-- Numbers in two's complement are equal if their bits are. -/
lemma signedLeft_eq_iff (hleft : x.left < x.modulus) (hright : x.right < x.modulus) :
    x.signedLeft = x.signedRight ↔ x.left = x.right := by
  unfold signedLeft signedRight twosComplement
  split <;> split <;> omega

/-- What the opposite of a condition decides. -/
lemma holds_opposite_iff {condition : Condition} {p : Prop} (h : condition.holds cc = true ↔ p) :
    condition.opposite.holds cc = true ↔ ¬p := by
  rw [Condition.holds_opposite, Bool.not_eq_true', ← Bool.not_eq_true, h]

/-- The conditions decide how two numbers compare if the codes tell the truth
about their difference. Five of the ten are opposites of the others. -/
lemma decidedBy_of_tell (hmodulus : x.modulus = 256 ∨ x.modulus = 65536)
    (hleft : x.left < x.modulus) (hright : x.right < x.modulus)
    (h : cc.Tell x.modulus (x.left - x.right) (x.signedLeft - x.signedRight))
    (hzero : cc.z = true ↔ x.left = x.right) : x.DecidedBy cc := by
  have hequal : Condition.equal.holds cc = true ↔ x.left = x.right := hzero
  have hcarrySet : Condition.carrySet.holds cc = true ↔ x.left < x.right :=
    h.carry.trans (by omega)
  have hlowerOrSame : Condition.lowerOrSame.holds cc = true ↔ x.left ≤ x.right := by
    refine Bool.or_eq_true_iff.trans ((or_congr hcarrySet hequal).trans ?_)
    omega
  have hless : Condition.less.holds cc = true ↔ x.signedLeft < x.signedRight :=
    bne_iff_ne.trans (negative_ne_overflow_iff hmodulus hleft hright h)
  have hlessOrEqual : Condition.lessOrEqual.holds cc = true ↔ x.signedLeft ≤ x.signedRight := by
    refine Bool.or_eq_true_iff.trans ((or_congr hequal hless).trans ?_)
    rw [← signedLeft_eq_iff hleft hright]
    omega
  exact
    { higher := (holds_opposite_iff hlowerOrSame).trans Nat.not_le
      lowerOrSame := hlowerOrSame
      carryClear := (holds_opposite_iff hcarrySet).trans Nat.not_lt
      carrySet := hcarrySet
      greaterOrEqual := (holds_opposite_iff hless).trans Int.not_lt
      less := hless
      greater := (holds_opposite_iff hlessOrEqual).trans Int.not_le
      lessOrEqual := hlessOrEqual
      equal := hequal
      notEqual := holds_opposite_iff hequal }

/-- The conditions decide how two bytes compare of which the difference was
taken. -/
lemma decidedBy_subtract (cc : ConditionCodes) (left right : UInt8) :
    (⟨256, left.toNat, right.toNat⟩ : Comparison).DecidedBy (subtract cc left right false).2 := by
  have hleft := left.toNat_lt
  have hright := right.toNat_lt
  have hvalue := toNat_subtract cc left right false
  have htell := tell_subtract cc left right false
  simp only [Bool.toNat_false, Int.natCast_zero, add_zero] at hvalue htell
  have hzero : (subtract cc left right false).2.z = true ↔
      (subtract cc left right false).1.toNat = 0 := beq_iff_eq.trans UInt8.toNat_inj.symm
  refine decidedBy_of_tell (.inl rfl) hleft hright htell (hzero.trans ?_)
  dsimp only
  omega

/-- The conditions decide how two words compare of which the difference was
taken. -/
lemma decidedBy_subtractWord (cc : ConditionCodes) (left right : UInt16) :
    (⟨65536, left.toNat, right.toNat⟩ : Comparison).DecidedBy (subtractWord cc left right).2 := by
  have hleft := left.toNat_lt
  have hright := right.toNat_lt
  have hvalue := toNat_subtractWord cc left right
  have hzero : (subtractWord cc left right).2.z = true ↔
      (subtractWord cc left right).1.toNat = 0 := beq_iff_eq.trans UInt16.toNat_inj.symm
  refine decidedBy_of_tell (.inr rfl) hleft hright (tell_subtractWord cc left right)
    (hzero.trans ?_)
  dsimp only
  omega

end Comparison

/-! ### The numbers that an instruction compares -/

namespace Processor

/-- Where the operand of an instruction stands: in memory, or behind the opcode
if it is part of the instruction. -/
def dataAddress (p : Processor) (f : Fetch) (mode : Mode) : UInt16 :=
  (p.effectiveAddress? f mode).getD f.operandAddress

/-- The numbers that the instruction at the program counter compares or
subtracts: a register and the operand, or the two accumulators. -/
def comparison? (p : Processor) (e : Encoding) : Option Comparison :=
  let place := p.dataAddress p.fetch e.mode
  match e.operation with
  | .accumulate .compare which | .accumulate .subtract which =>
    some ⟨256, (p.registers.accumulator which).toNat, (p.memory.read place).toNat⟩
  | .pair .compare | .pair .subtract => some ⟨256, p.registers.a.toNat, p.registers.b.toNat⟩
  | .compareWord | .subtractWord =>
    some ⟨65536, p.registers.d.toNat, (p.memory.readWord place).toNat⟩
  | .compareIndex which =>
    some ⟨65536, (p.registers.index which).toNat, (p.memory.readWord place).toNat⟩
  | _ => none

end Processor

/-- Whether the operation compares and keeps no difference. -/
def Operation.compares : Operation → Bool
  | accumulate .compare _ | pair .compare | compareWord | compareIndex _ => true
  | _ => false

/-- The operations that compare. -/
lemma Operation.eq_of_compares {operation : Operation} (h : operation.compares = true) :
    (∃ which, operation = accumulate .compare which) ∨ operation = pair .compare ∨
      operation = compareWord ∨ ∃ which, operation = compareIndex which := by
  cases operation with
  | accumulate op which =>
      cases op with
      | compare => exact .inl ⟨which, rfl⟩
      | _ => cases h
  | pair op =>
      cases op with
      | compare => exact .inr (.inl rfl)
      | _ => cases h
  | compareWord => exact .inr (.inr (.inl rfl))
  | compareIndex which => exact .inr (.inr (.inr ⟨which, rfl⟩))
  | _ => cases h

/-- Whether the operation works on an operand in memory or behind the opcode. -/
def Operation.hasData : Operation → Bool
  | accumulate .. | addWord | subtractWord | compareWord | compareIndex _ => true
  | _ => false

/-- Whether the operand is in memory or behind the opcode. -/
def Mode.hasData : Mode → Bool
  | immediate | direct | extended | indexed _ => true
  | _ => false

/-- The modes of the operations that work on such an operand. -/
lemma Page.hasData_of_operation {page : Page} {opcode : UInt8} {e : Encoding}
    (h : page.encoding? opcode = some e) (hdata : e.operation.hasData = true) :
    e.mode.hasData = true := by
  have htable : ∀ row ∈ encodings, row.encoding.operation.hasData = true →
      row.encoding.mode.hasData = true := by
    decide +kernel
  exact htable _ (encoding?_eq_some_iff.mp h) hdata

namespace Processor

variable {p : Processor} {e : Encoding}

/-- The operand of an instruction on bytes. -/
lemma readByte_operand (hmode : e.mode.hasData = true) (hwide : e.operation.isWide = false) :
    ((p.memory.operand e p.fetch.operandAddress).readByte (advance p.registers p.fetch)
      p.memory).value = p.memory.read (p.dataAddress p.fetch e.mode) := by
  obtain ⟨operation, mode, cycles⟩ := e
  cases mode with
  | immediate =>
      simp only [Memory.operand, hwide]
      rfl
  | direct | extended => rfl
  | indexed which => cases which <;> rfl
  | _ => cases hmode

/-- The operand of an instruction on words. -/
lemma readWord_operand (hmode : e.mode.hasData = true) (hwide : e.operation.isWide = true) :
    ((p.memory.operand e p.fetch.operandAddress).readWord (advance p.registers p.fetch)
      p.memory).value = p.memory.readWord (p.dataAddress p.fetch e.mode) := by
  obtain ⟨operation, mode, cycles⟩ := e
  cases mode with
  | immediate =>
      simp only [Memory.operand, hwide]
      rfl
  | direct | extended => rfl
  | indexed which => cases which <;> rfl
  | _ => cases hmode

/-- The conditions decide how the numbers compare that the instruction at the
program counter compared or subtracted. -/
lemma decidedBy_step (h : p.fetch.encoding? = some e) {x : Comparison}
    (hx : p.comparison? e = some x) : x.DecidedBy p.step.processor.registers.cc := by
  have hmode := Page.hasData_of_operation h
  have hbyte := readByte_operand (p := p) (e := e)
  have hword := readWord_operand (p := p) (e := e)
  rw [cc_step h]
  obtain ⟨operation, mode, cycles⟩ := e
  cases operation with
  | accumulate op which =>
      cases op with
      | compare | subtract =>
          obtain rfl := Option.some.inj hx
          simp only [Instruction.effect, Memory.complete, Instruction.cc_combine,
            hbyte (hmode rfl) rfl]
          exact Comparison.decidedBy_subtract ..
      | _ => cases hx
  | pair op =>
      cases op with
      | compare | subtract =>
          obtain rfl := Option.some.inj hx
          exact Comparison.decidedBy_subtract ..
      | _ => cases hx
  | compareWord | subtractWord | compareIndex which =>
      obtain rfl := Option.some.inj hx
      simp only [Instruction.effect, Memory.complete, hword (hmode rfl) rfl]
      exact Comparison.decidedBy_subtractWord ..
  | _ => cases hx

/-- A comparison changes no memory, and no registers but the program counter,
the address of the instruction executed last, the cycle counter and four
condition codes. -/
lemma step_of_compares (h : p.fetch.encoding? = some e) (hcompares : e.operation.compares = true) :
    p.step.processor =
      { p with
        registers :=
          { p.registers with
            pc := p.fetch.next
            lastPc := p.registers.pc
            cycles := p.registers.cycles + UInt64.ofNat e.cycles
            cc :=
              { p.registers.cc with
                n := p.step.processor.registers.cc.n
                z := p.step.processor.registers.cc.z
                v := p.step.processor.registers.cc.v
                c := p.step.processor.registers.cc.c } } } := by
  rw [step_eq_execute h]
  obtain ⟨operation, mode, cycles⟩ := e
  obtain ⟨which, rfl⟩ | rfl | rfl | ⟨which, rfl⟩ := Operation.eq_of_compares hcompares <;> rfl

/-- A comparison compares numbers. -/
lemma isSome_comparison? (hcompares : e.operation.compares = true) :
    (p.comparison? e).isSome = true := by
  obtain ⟨operation, mode, cycles⟩ := e
  obtain ⟨which, rfl⟩ | rfl | rfl | ⟨which, rfl⟩ := Operation.eq_of_compares hcompares <;> rfl

/-- A branch is taken if its condition holds. -/
lemma pc_step_of_branch (h : p.fetch.encoding? = some e) {condition : Condition}
    (hbranch : e.operation = .branch condition) :
    p.step.processor.registers.pc =
      if condition.holds p.registers.cc then
        Word.displace p.fetch.next (p.memory.read p.fetch.operandAddress)
      else p.fetch.next := by
  have htaken : e.operation.branches? p.registers.cc = some (condition.holds p.registers.cc) := by
    rw [hbranch]
    rfl
  have hoperand : p.memory.operand e p.fetch.operandAddress =
      .relative (p.memory.read p.fetch.operandAddress) := by
    rw [Memory.operand, Page.relative_of_branches? h htaken]
  rw [pc_step h]
  exact Instruction.pc_effect_of_branches? p.memory htaken hoperand

end Processor

/-- **A branch behind a comparison decides the relation**: a comparison has
numbers to compare and changes only what keeps the step going and four of the
condition codes. These decide, and after a subtraction the same codes do, how
the register compared with the operand, without a sign and in two's
complement; and wherever a branch finds them, it is taken exactly if its
condition holds of them. -/
theorem Core.step_comparison (c : Core) {e : Encoding}
    (he : c.processor.fetch.encoding? = some e) :
    let before := c.processor
    let after := c.step.core.processor
    let codes := after.registers.cc
    (e.operation.compares = true →
      (before.comparison? e).isSome = true ∧
        after =
          { before with
            registers :=
              { before.registers with
                pc := before.fetch.next
                lastPc := before.registers.pc
                cycles := before.registers.cycles + UInt64.ofNat e.cycles
                cc :=
                  { before.registers.cc with
                    n := codes.n
                    z := codes.z
                    v := codes.v
                    c := codes.c } } }) ∧
      (∀ x, before.comparison? e = some x → x.DecidedBy codes) ∧
      ∀ (b : Core) (condition : Condition), b.registers.cc = codes →
        (b.processor.fetch.encoding?.map Encoding.operation) = some (.branch condition) →
        b.step.core.registers.pc =
          if condition.holds codes then
            Word.displace b.processor.fetch.next (b.memory.read b.processor.fetch.operandAddress)
          else b.processor.fetch.next := by
  intro before after codes
  refine ⟨fun hcompares => ⟨Processor.isSome_comparison? hcompares,
    Processor.step_of_compares he hcompares⟩, fun x => Processor.decidedBy_step he,
    fun b condition hcodes hbranch => ?_⟩
  obtain ⟨branch, hfetch, hcondition⟩ := Option.map_eq_some_iff.mp hbranch
  have hpc := Processor.pc_step_of_branch hfetch hcondition
  rwa [show b.processor.registers.cc = codes from hcodes] at hpc

/-- Comparing the most negative byte with one: it is less with a sign and
higher without. -/
theorem Core.step_comparison_mostNegative :
    let c : Core := ⟨⟨{ Registers.reset with a := 0x80 }, Memory.zero.writeBlock 0 [0x81, 0x01]⟩, ∅⟩
    Condition.less.holds c.step.core.registers.cc = true ∧
      Condition.higher.holds c.step.core.registers.cc = true := by
  intro c
  have hfetch : c.processor.fetch.encoding? = some ⟨.accumulate .compare .a, .immediate, 2⟩ := by
    decide +kernel
  have hnumbers : c.processor.comparison? ⟨.accumulate .compare .a, .immediate, 2⟩ =
      some ⟨256, 0x80, 0x01⟩ := by
    decide +kernel
  clear_value c
  have hdecided := (Core.step_comparison c hfetch).2.1 ⟨256, 0x80, 0x01⟩ hnumbers
  exact ⟨hdecided.less.mpr (by decide), hdecided.higher.mpr (by decide)⟩

end M68HC11
