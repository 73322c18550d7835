import M68HC11.Proofs.Overflow
import M68HC11.Proofs.Quotients

/-!
Folding in registers of 32 bits.

Raw results are folded by two loops, of which the first adds the modulus while the
value is negative and the second subtracts it while the value is too large. On a
machine they run in 32 bits.

* `Fold.Loop.Run`: the run of such a loop, with every value that a round assigns.
  `Fold.exists_run_raise` and `Fold.exists_run_lower` are the runs of the two, and
  where their values lie;
* `Fold.Folds`: raw results that are folded without leaving 32 bits, by rounds of one
  loop only, to their Euclidean remainder;
* `Fold.folding_exact` (**folding is exact**): every number of 32 bits is folded so,
  and so are the sums, the differences and the steps of registers.
-/

namespace M68HC11

namespace Fold

/-! ### Loops -/

/-- A loop that changes a value by the same number in each round, while a condition
holds. -/
structure Loop where
  holds : ℤ → Prop
  change : ℤ

/-- The run of a loop from a value: the values that its rounds assign, one after the
other, and the value with which it ends. -/
inductive Loop.Run (loop : Loop) : ℤ → List ℤ → ℤ → Prop
  /-- The condition does not hold. -/
  | done {z : ℤ} (h : ¬ loop.holds z) : Run loop z [] z
  /-- A round, and those that follow it. -/
  | round {z z' : ℤ} {values : List ℤ} (h : loop.holds z)
      (rest : Run loop (z + loop.change) values z') :
      Run loop z ((z + loop.change) :: values) z'

/-- Where the condition does not hold no round is run. -/
lemma Loop.Run.eq_nil {loop : Loop} {z z' : ℤ} {values : List ℤ} (h : loop.Run z values z')
    (hz : ¬ loop.holds z) : values = [] := by
  cases h with
  | done => rfl
  | round hholds => exact absurd hholds hz

/-- The loop that adds the modulus while the value is negative. -/
def raising (modulus : ℕ) : Loop := ⟨(· < 0), modulus⟩

/-- The loop that subtracts the modulus while the value is not below it. -/
def lowering (modulus : ℕ) : Loop := ⟨((modulus : ℤ) ≤ ·), -modulus⟩

variable {modulus : ℕ} (hpos : 0 < modulus)

/-- Raising is a run of the first loop, the values of which ascend and stay below the
modulus. -/
lemma exists_run_raise (z : ℤ) :
    ∃ values, (raising modulus).Run z values (raise modulus hpos z) ∧
      ∀ v ∈ values, z < v ∧ v < modulus := by
  fun_induction raise modulus hpos z with
  | case1 z hnegative ih =>
      obtain ⟨values, hrun, hvalues⟩ := ih
      refine ⟨_, .round hnegative hrun, List.forall_mem_cons.mpr ⟨?_, fun v hv => ?_⟩⟩
      · change z < z + modulus ∧ z + modulus < modulus
        omega
      · have := hvalues v hv
        omega
  | case2 z hnonneg => exact ⟨[], .done hnonneg, List.forall_mem_nil _⟩

/-- Lowering is a run of the second loop, the values of which descend and are not
negative. -/
lemma exists_run_lower (z : ℤ) :
    ∃ values, (lowering modulus).Run z values (lower modulus hpos z) ∧
      ∀ v ∈ values, 0 ≤ v ∧ v < z := by
  fun_induction lower modulus hpos z with
  | case1 z hlarge ih =>
      obtain ⟨values, hrun, hvalues⟩ := ih
      refine ⟨_, .round hlarge hrun, List.forall_mem_cons.mpr ⟨?_, fun v hv => ?_⟩⟩
      · change 0 ≤ z + -(modulus : ℤ) ∧ z + -(modulus : ℤ) < z
        omega
      · have := hvalues v hv
        omega
  | case2 z hsmall => exact ⟨[], .done hsmall, List.forall_mem_nil _⟩

/-- A value below the modulus is not raised beyond it. -/
lemma raise_lt {z : ℤ} (h : z < modulus) : raise modulus hpos z < modulus := by
  fun_induction raise modulus hpos z with
  | case1 z hnegative ih => exact ih (by omega)
  | case2 => exact h

/-! ### Folding in 32 bits -/

/-- A raw result that is folded within 32 bits: neither it nor a value that a round
assigns is out of range, the rounds are those of one loop only, and the value with
which they end is the remainder. -/
structure Folds (modulus : ℕ) (hpos : 0 < modulus) (raw : ℤ) (value : ℕ) : Prop where
  loops : ∃ raised lowered,
    (raising modulus).Run raw raised (raise modulus hpos raw) ∧
      (lowering modulus).Run (raise modulus hpos raw) lowered value ∧
      (raised = [] ∨ lowered = []) ∧ ∀ v ∈ raw :: (raised ++ lowered), FitsSigned Int32.size v
  eq_emod : (value : ℤ) = raw % modulus

/-- Numbers of 32 bits are folded within 32 bits, by every modulus that is one. -/
lemma folds_of_fits {raw : ℤ} {value : ℕ} (hmodulus : FitsSigned Int32.size modulus)
    (hraw : FitsSigned Int32.size raw) (hvalue : (value : ℤ) = fold modulus hpos raw) :
    Folds modulus hpos raw value := by
  obtain ⟨raised, hraise, hraised⟩ := exists_run_raise hpos raw
  obtain ⟨lowered, hlower, hlowered⟩ := exists_run_lower hpos (raise modulus hpos raw)
  rw [← fold, ← hvalue] at hlower
  refine ⟨⟨raised, lowered, hraise, hlower, ?_⟩, by rw [hvalue, fold_eq_emod]⟩
  rw [FitsSigned] at hmodulus hraw
  by_cases hnegative : raw < 0
  · -- raising ends below the modulus, so there is nothing to lower
    have hlt : raise modulus hpos raw < modulus := raise_lt hpos (by omega)
    obtain rfl := hlower.eq_nil (Int.not_le.mpr hlt)
    refine ⟨.inr rfl, List.forall_mem_cons.mpr ⟨hraw, fun v hv => ?_⟩⟩
    rw [List.append_nil] at hv
    have := hraised v hv
    rw [FitsSigned]
    omega
  · -- there is nothing to raise, so lowering starts from the raw result
    obtain rfl := hraise.eq_nil hnegative
    have hsame : raise modulus hpos raw = raw := by rw [raise, if_neg hnegative]
    rw [hsame] at hlowered
    refine ⟨.inl rfl, List.forall_mem_cons.mpr ⟨hraw, fun v hv => ?_⟩⟩
    rw [List.nil_append] at hv
    have := hlowered v hv
    rw [FitsSigned]
    omega

/-- The byte that a number of 32 bits is folded into. -/
lemma folds_byte {raw : ℤ} (h : FitsSigned Int32.size raw) :
    Folds 256 (by decide) raw (byte raw).toNat :=
  folds_of_fits _ (by decide) h (by rw [toNat_byte, fold_eq_emod]; rfl)

/-- The word that a number of 32 bits is folded into. -/
lemma folds_word {raw : ℤ} (h : FitsSigned Int32.size raw) :
    Folds 65536 (by decide) raw (word raw).toNat :=
  folds_of_fits _ (by decide) h (by rw [toNat_word, fold_eq_emod]; rfl)

/-- A number of 32 bits. -/
lemma fitsSigned_toInt (raw : Int32) : FitsSigned Int32.size raw.toInt := by
  have hlow := raw.le_toInt
  have hhigh := raw.toInt_lt
  have hsize : Int32.size = 4294967296 := rfl
  rw [FitsSigned, hsize]
  omega

/-- So are the sums and differences of words, of which raw results are made. -/
lemma fitsSigned_of_bounds {raw : ℤ} (hlow : -65536 ≤ raw) (hhigh : raw ≤ 131071) :
    FitsSigned Int32.size raw := by
  have hsize : Int32.size = 4294967296 := rfl
  rw [FitsSigned, hsize]
  omega

/-! ### Sums, differences and steps -/

section Sums

variable (cc : ConditionCodes)

lemma folds_add (left right : UInt8) (carry : Bool) :
    Folds 256 (by decide) (left.toNat + right.toNat + carry.toNat)
      (add cc left right carry).1.toNat := by
  have hleft := left.toNat_lt
  have hright := right.toNat_lt
  have hcarry := carry.toNat_le
  exact folds_byte (fitsSigned_of_bounds (by omega) (by omega))

lemma folds_subtract (left right : UInt8) (borrow : Bool) :
    Folds 256 (by decide) (left.toNat - right.toNat - borrow.toNat)
      (subtract cc left right borrow).1.toNat := by
  have hleft := left.toNat_lt
  have hright := right.toNat_lt
  have hborrow := borrow.toNat_le
  exact folds_byte (fitsSigned_of_bounds (by omega) (by omega))

lemma folds_addWord (left right : UInt16) :
    Folds 65536 (by decide) (left.toNat + right.toNat) (addWord cc left right).1.toNat := by
  have hleft := left.toNat_lt
  have hright := right.toNat_lt
  exact folds_word (fitsSigned_of_bounds (by omega) (by omega))

lemma folds_subtractWord (left right : UInt16) :
    Folds 65536 (by decide) (left.toNat - right.toNat) (subtractWord cc left right).1.toNat := by
  have hleft := left.toNat_lt
  have hright := right.toNat_lt
  exact folds_word (fitsSigned_of_bounds (by omega) (by omega))

end Sums

end Fold

/-- The number by which a byte is changed in place, if it is by one. -/
def Modification.change? : Modification → Option ℤ
  | .increment => some 1
  | .decrement => some (-1)
  | _ => none

/-- The number that a step adds. -/
def StepDirection.change : StepDirection → ℤ
  | .up => 1
  | .down => -1

/-- An index register among the registers of sixteen bits. -/
def IndexRegister.toWord : IndexRegister → WordRegister
  | .x => .x
  | .y => .y

/-- The register that an operation steps, and the number that it adds to it. -/
def Operation.step? (r : Registers) : Operation → Option (WordRegister × ℤ)
  | .stepIndex direction which => some (which.toWord, direction.change)
  | .stepStack direction => some (.sp, direction.change)
  | .addToIndex which => some (which.toWord, r.b.toNat)
  | _ => none

namespace Fold

/-- A byte that is changed by one in place. -/
lemma folds_change {op : Modification} {change : ℤ} (h : op.change? = some change)
    (cc : ConditionCodes) (value : UInt8) :
    ∃ result, (op.apply cc value).1 = some result ∧
      Folds 256 (by decide) (value.toNat + change) result.toNat := by
  have hvalue := value.toNat_lt
  cases op with
  | increment =>
      obtain rfl := Option.some.inj h
      exact ⟨_, rfl, folds_byte (fitsSigned_of_bounds (by omega) (by omega))⟩
  | decrement =>
      obtain rfl := Option.some.inj h
      exact ⟨_, rfl, folds_byte (fitsSigned_of_bounds (by omega) (by omega))⟩
  | _ => cases h

/-- A word one step further. -/
lemma folds_direction (direction : StepDirection) (value : UInt16) :
    Folds 65536 (by decide) (value.toNat + direction.change) (direction.apply value).toNat := by
  have hvalue := value.toNat_lt
  cases direction with
  | up =>
      change Folds 65536 _ (value.toNat + 1) _
      exact folds_word (fitsSigned_of_bounds (by omega) (by omega))
  | down =>
      change Folds 65536 _ (value.toNat + -1) _
      exact folds_word (fitsSigned_of_bounds (by omega) (by omega))

end Fold

namespace Registers

@[simp] lemma word_toWord (r : Registers) (which : IndexRegister) :
    r.word which.toWord = r.index which := by
  cases which <;> rfl

@[simp] lemma index_charge (r : Registers) (cycles : UInt64) (which : IndexRegister) :
    (r.charge cycles).index which = r.index which := by
  cases which <;> rfl

end Registers

namespace Processor

variable {p : Processor} {i : Instruction} {which : WordRegister} {change : ℤ}

@[simp] lemma index_advance (r : Registers) (f : Fetch) (which : IndexRegister) :
    (advance r f).index which = r.index which := by
  cases which <;> rfl

/-- A register that an instruction steps. -/
lemma folds_step (h : p.memory.instruction? p.fetch = some i)
    (hstep : i.encoding.operation.step? p.registers = some (which, change)) :
    Fold.Folds 65536 (by decide) ((p.registers.word which).toNat + change)
      (p.step.processor.registers.word which).toNat := by
  rw [registers_step h, Instruction.effect]
  cases hop : i.encoding.operation with
  | stepIndex direction index =>
      rw [hop] at hstep
      obtain ⟨rfl, rfl⟩ := Prod.mk.inj (Option.some.inj hstep)
      simp only [Effect.ofRegisters, Registers.word_toWord, Registers.index_charge,
        Registers.index_putIndex, index_advance]
      exact Fold.folds_direction direction (p.registers.index index)
  | stepStack direction =>
      rw [hop] at hstep
      obtain ⟨rfl, rfl⟩ := Prod.mk.inj (Option.some.inj hstep)
      exact Fold.folds_direction direction p.registers.sp
  | addToIndex index =>
      rw [hop] at hstep
      obtain ⟨rfl, rfl⟩ := Prod.mk.inj (Option.some.inj hstep)
      have hindex := (p.registers.index index).toNat_lt
      have hb := p.registers.b.toNat_lt
      simp only [Effect.ofRegisters, Registers.word_toWord, Registers.index_charge,
        Registers.index_putIndex, index_advance]
      exact Fold.folds_word (Fold.fitsSigned_of_bounds (by omega) (by omega))
  | _ =>
      rw [hop] at hstep
      cases hstep

end Processor

namespace Fold

/-- **Folding is exact.** Every number of 32 bits is folded into a byte and into a
word within 32 bits, by rounds of one loop only, and what it is folded into is its
Euclidean remainder. The same holds for the raw results of all sums and differences of
bytes and words, for bytes that are changed by one in place, and for the registers
that instructions step, so that all of these are exact modulo their width. -/
theorem folding_exact (raw : Int32) :
    Folds 256 (by decide) raw.toInt (byte raw.toInt).toNat ∧
      Folds 65536 (by decide) raw.toInt (word raw.toInt).toNat ∧
      (∀ cc left right carry,
        Folds 256 (by decide) (left.toNat + right.toNat + carry.toNat)
            (add cc left right carry).1.toNat ∧
          Folds 256 (by decide) (left.toNat - right.toNat - carry.toNat)
            (subtract cc left right carry).1.toNat) ∧
      (∀ cc left right,
        Folds 65536 (by decide) (left.toNat + right.toNat) (addWord cc left right).1.toNat ∧
          Folds 65536 (by decide) (left.toNat - right.toNat)
            (subtractWord cc left right).1.toNat) ∧
      (∀ (op : Modification) change cc value, op.change? = some change →
        ∃ result, (op.apply cc value).1 = some result ∧
          Folds 256 (by decide) (value.toNat + change) result.toNat) ∧
      ∀ (p : Processor) i which change, p.memory.instruction? p.fetch = some i →
        i.encoding.operation.step? p.registers = some (which, change) →
        Folds 65536 (by decide) ((p.registers.word which).toNat + change)
          (p.step.processor.registers.word which).toNat := by
  have hraw := fitsSigned_toInt raw
  refine ⟨folds_byte hraw, folds_word hraw, ?_, ?_, ?_, ?_⟩
  · exact fun cc left right carry =>
      ⟨folds_add cc left right carry, folds_subtract cc left right carry⟩
  · exact fun cc left right => ⟨folds_addWord cc left right, folds_subtractWord cc left right⟩
  · exact fun op change cc value hop => folds_change hop cc value
  · exact fun p i which change hinstruction hstep => p.folds_step hinstruction hstep

/-- The least number of 32 bits is folded into zero, and the largest word is stepped
around to it. -/
theorem folding_exact_stepsAround :
    let p : Processor := ⟨{ Registers.reset with x := 0xFFFF }, Memory.zero.write 0 0x08⟩
    p.fetch.encoding? = some ⟨.stepIndex .up .x, .inherent, 3⟩ ∧
      (byte Int32.minValue.toInt).toNat = 0 ∧ p.step.processor.registers.x.toNat = 0 := by
  intro p
  have hfetch : p.fetch.encoding? = some ⟨.stepIndex .up .x, .inherent, 3⟩ := by
    decide +kernel
  have hx : p.registers.x.toNat = 65535 := rfl
  clear_value p
  obtain ⟨hbyte, -, -, -, -, hstep⟩ := folding_exact Int32.minValue
  have hbyte := hbyte.eq_emod
  have hmin : Int32.minValue.toInt = -2147483648 := by decide
  have hnext : (p.step.processor.registers.x.toNat : ℤ) = (p.registers.x.toNat + 1) % 65536 :=
    (hstep p _ .x 1 (Processor.instruction?_eq hfetch) rfl).eq_emod
  refine ⟨hfetch, ?_, ?_⟩ <;> omega

end Fold

end M68HC11
