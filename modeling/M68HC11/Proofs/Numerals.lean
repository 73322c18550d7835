import M68HC11.Text.Numeral
import Mathlib.Tactic.Ring
import Mathlib.Data.Nat.Notation

/-!
Which texts are read as numerals.

* `Text.Numeral.characters`: the digits of a radix, and `AllDigits` a text of
  nothing else; `Text.Numeral.Row` is a row of digits with a value below a limit,
  and `Text.Numeral.Signed` such a row behind a plus sign;
* `Text.Numeral.isSome_valueFrom?_iff`: digits, and only those, have a value,
  and `Text.Numeral.value?_lt`: it has as many digits as the text;
* `Text.Numeral.isSome_read?_iff`: numerals are rows of digits, also behind a
  plus sign.
-/

namespace M68HC11.Text.Numeral

variable {radix limit : ℕ}

/-! ### Digits -/

/-- The characters that are digits of a radix up to sixteen. -/
def characters (radix : ℕ) : List Char :=
  "0123456789".toList.take radix ++
    ("abcdef".toList.take (radix - 10) ++ "ABCDEF".toList.take (radix - 10))

example : characters 10 = "0123456789".toList := rfl

example : characters 16 = "0123456789abcdefABCDEF".toList := rfl

/-- A text of digits only. -/
def AllDigits (radix : ℕ) (text : List Char) : Prop := ∀ c ∈ text, c ∈ characters radix

instance (radix : ℕ) (text : List Char) : Decidable (AllDigits radix text) :=
  -- not by going through all characters there are
  List.decidableBAll (· ∈ characters radix) text

lemma allDigits_cons {c : Char} {text : List Char} :
    AllDigits radix (c :: text) ↔ c ∈ characters radix ∧ AllDigits radix text :=
  List.forall_mem_cons

/-- A larger radix has more digits. -/
lemma characters_subset {radix' : ℕ} (h : radix ≤ radix') :
    characters radix ⊆ characters radix' := by
  have hletters : radix - 10 ≤ radix' - 10 := Nat.sub_le_sub_right h 10
  have htake (row : List Char) {n k : ℕ} (hle : n ≤ k) : row.take n ⊆ row.take k :=
    (List.take_prefix_take_left hle).subset
  intro c hc
  rw [characters, List.mem_append, List.mem_append] at hc ⊢
  exact hc.imp (htake _ h ·) (Or.imp (htake _ hletters ·) (htake _ hletters ·))

/-- The plus sign is no digit. -/
lemma plus_notMem_characters (hradix : radix ≤ 16) : '+' ∉ characters radix := by
  have hplus : '+' ∉ characters 16 := by decide
  exact fun hmem => hplus (characters_subset hradix hmem)

/-- Digits have codes up to that of `'z'`. -/
lemma toNat_le_of_digit? {c : Char} {value : ℕ} (h : digit? radix c = some value) :
    c.toNat ≤ 122 := by
  have hle {last : Char} (hlast : last.toNat ≤ 122) (hc : c ≤ last) : c.toNat ≤ 122 :=
    Nat.le_trans (UInt32.le_iff_toNat_le.mp hc) hlast
  have hvalue := (Option.filter_eq_some_iff.mp h).1
  split at hvalue
  · next hdecimal => exact hle (by decide) hdecimal.2
  split at hvalue
  · next hsmall => exact hle (by decide) hsmall.2
  split at hvalue
  · next hcapital => exact hle (by decide) hcapital.2
  · cases hvalue

/-- The value of a digit lies below the radix. -/
lemma digit?_lt {c : Char} {value : ℕ} (h : digit? radix c = some value) : value < radix := by
  simpa using (Option.filter_eq_some_iff.mp h).2

/-- It is the same in every radix that it lies below. -/
lemma digit?_of_lt {radix' : ℕ} {c : Char} {value : ℕ} (h : digit? radix c = some value)
    (hlt : value < radix') : digit? radix' c = some value :=
  Option.filter_eq_some_iff.mpr ⟨(Option.filter_eq_some_iff.mp h).1, decide_eq_true hlt⟩

/-- In particular in a larger one. -/
lemma digit?_of_le {radix' : ℕ} (hle : radix ≤ radix') {c : Char} {value : ℕ}
    (h : digit? radix c = some value) : digit? radix' c = some value :=
  digit?_of_lt h (Nat.lt_of_lt_of_le (digit?_lt h) hle)

/-- The digits of a radix have ASCII codes as well. -/
lemma toNat_lt_of_mem_characters (hradix : radix ≤ 16) {c : Char} (h : c ∈ characters radix) :
    c.toNat < 0x80 := by
  have hall : (characters 16).all fun c => c.toNat < 0x80 := by decide
  exact of_decide_eq_true (List.all_eq_true.mp hall c (characters_subset hradix h))

/-- A character has a value as a digit exactly if it is one of the radix. -/
lemma isSome_digit?_iff (hradix : radix ≤ 16) (c : Char) :
    (digit? radix c).isSome ↔ c ∈ characters radix := by
  -- digits have small codes, so that all candidates can be looked at
  have hcodes : ∀ n ≤ 122, (digit? 16 (Char.ofNat n)).isSome → Char.ofNat n ∈ characters 16 := by
    decide +kernel
  have hdigits : ∀ radix ≤ 16, (characters 16).all fun c =>
      (digit? radix c).isSome ↔ c ∈ characters radix := by
    decide +kernel
  have hall (hmem : c ∈ characters 16) : (digit? radix c).isSome ↔ c ∈ characters radix :=
    of_decide_eq_true (List.all_eq_true.mp (hdigits radix hradix) c hmem)
  constructor
  · intro hsome
    obtain ⟨value, hvalue⟩ := Option.isSome_iff_exists.mp hsome
    have hmem := hcodes c.toNat (toNat_le_of_digit? hvalue)
    rw [Char.ofNat_toNat, digit?_of_le hradix hvalue] at hmem
    exact (hall (hmem rfl)).mp hsome
  · exact fun hmem => (hall (characters_subset hradix hmem)).mpr hmem

/-! ### Rows of digits -/

/-- A text has a value exactly if it consists of digits. -/
lemma isSome_valueFrom?_iff (hradix : radix ≤ 16) (start : ℕ) (text : List Char) :
    (valueFrom? radix start text).isSome ↔ AllDigits radix text := by
  induction text generalizing start with
  | nil => exact ⟨fun _ => List.forall_mem_nil _, fun _ => rfl⟩
  | cons c text ih =>
      rw [allDigits_cons, ← isSome_digit?_iff hradix, valueFrom?]
      cases digit? radix c with
      | none => simp
      | some value => simpa using ih (start * radix + value)

/-- A value has no more digits than the text that it is of. -/
lemma valueFrom?_lt {start n : ℕ} {text : List Char} (h : valueFrom? radix start text = some n) :
    n < (start + 1) * radix ^ text.length := by
  induction text generalizing start with
  | nil =>
      obtain rfl := Option.some.inj h
      rw [List.length_nil, Nat.pow_zero, Nat.mul_one]
      exact Nat.lt_succ_self start
  | cons c text ih =>
      rw [valueFrom?] at h
      obtain ⟨value, hvalue, hrest⟩ := Option.bind_eq_some_iff.mp h
      have hlt := digit?_lt hvalue
      have hfirst : start * radix + value + 1 ≤ (start + 1) * radix := by
        rw [Nat.add_mul, Nat.one_mul]
        omega
      calc n < (start * radix + value + 1) * radix ^ text.length := ih hrest
        _ ≤ (start + 1) * radix * radix ^ text.length := Nat.mul_le_mul_right _ hfirst
        _ = (start + 1) * radix ^ (c :: text).length := by
          rw [List.length_cons, Nat.pow_succ]
          ring

lemma value?_lt {n : ℕ} {text : List Char} (h : value? radix text = some n) :
    n < radix ^ text.length := by
  have hlt := valueFrom?_lt h
  rwa [Nat.zero_add, Nat.one_mul] at hlt

/-- A row of digits, at least one, with a value below a limit. -/
structure Row (radix limit : ℕ) (text : List Char) : Prop where
  ne_nil : text ≠ []
  digits : AllDigits radix text
  value : ∃ n < limit, value? radix text = some n

/-- Digits have a value below the limit that their number suggests. -/
lemma row_of_allDigits (hradix : radix ≤ 16) {text : List Char} (hne : text ≠ [])
    (hall : AllDigits radix text) (hlimit : radix ^ text.length ≤ limit) :
    Row radix limit text := by
  obtain ⟨n, hn⟩ := Option.isSome_iff_exists.mp ((isSome_valueFrom?_iff hradix 0 text).mpr hall)
  exact ⟨hne, hall, n, Nat.lt_of_lt_of_le (value?_lt hn) hlimit, hn⟩

/-! ### Numerals -/

/-- A plus sign with a row of digits behind it. -/
def Signed (radix limit : ℕ) (text : List Char) : Prop :=
  ∃ digits, text = '+' :: digits ∧ Row radix limit digits

/-- No other character is a sign. -/
lemma not_signed_cons {c : Char} {text : List Char} (hc : c ≠ '+') :
    ¬ Signed radix limit (c :: text) := by
  rintro ⟨digits, htext, -⟩
  exact hc (List.cons.inj htext).1

/-- In front of digits there is no sign to skip. -/
lemma digits_of_allDigits (hradix : radix ≤ 16) {text : List Char} (h : AllDigits radix text) :
    digits text = text := by
  unfold digits
  split
  · exact absurd (allDigits_cons.mp h).1 (plus_notMem_characters hradix)
  · rfl

/-- What is read of a numeral is a row of digits. -/
lemma isSome_read?_iff_row (hradix : radix ≤ 16) (text : List Char) :
    (read? radix limit text).isSome ↔ Row radix limit (digits text) := by
  rw [read?]
  split
  · next hempty =>
    exact ⟨fun h => absurd h (by decide), fun h => absurd (List.isEmpty_iff.mp hempty) h.ne_nil⟩
  · next hsome =>
    have hne : digits text ≠ [] := fun h => hsome (List.isEmpty_iff.mpr h)
    constructor
    · intro h
      obtain ⟨n, hn⟩ := Option.isSome_iff_exists.mp h
      obtain ⟨hvalue, hlt⟩ := Option.filter_eq_some_iff.mp hn
      have hall := (isSome_valueFrom?_iff hradix 0 _).mp (Option.isSome_iff_exists.mpr ⟨n, hvalue⟩)
      exact ⟨hne, hall, n, of_decide_eq_true hlt, hvalue⟩
    · rintro ⟨-, -, n, hlt, hvalue⟩
      rw [hvalue, Option.filter_some, if_pos (decide_eq_true hlt)]
      rfl

/-- A numeral is smaller than the number of its characters allows. -/
lemma read?_lt_pow (hradix : 0 < radix) {n : ℕ} {text : List Char}
    (h : read? radix limit text = some n) : n < radix ^ text.length := by
  have hlength : (digits text).length ≤ text.length := by
    unfold digits
    split
    · exact Nat.le_succ _
    · exact Nat.le_refl _
  rw [read?] at h
  split at h
  · cases h
  · exact Nat.lt_of_lt_of_le (value?_lt (Option.filter_eq_some_iff.mp h).1)
      (Nat.pow_le_pow_right hradix hlength)

/-- **Numerals** are rows of digits, also behind a plus sign. -/
lemma isSome_read?_iff (hradix : radix ≤ 16) (text : List Char) :
    (read? radix limit text).isSome ↔ Row radix limit text ∨ Signed radix limit text := by
  rw [isSome_read?_iff_row hradix]
  constructor
  · intro hrow
    unfold digits at hrow
    split at hrow
    · exact .inr ⟨_, rfl, hrow⟩
    · exact .inl hrow
  · rintro (hrow | ⟨rest, rfl, hrow⟩)
    · rwa [digits_of_allDigits hradix hrow.digits]
    · exact hrow

/-- Where the limit is no bound, a text is a numeral if it has digits only, or a
sign and then digits. -/
lemma isSome_read?_iff_of_length (hradix : radix ≤ 16) {text : List Char} (hne : text ≠ [])
    (hlimit : radix ^ text.length ≤ limit) :
    (read? radix limit text).isSome ↔ AllDigits radix text ∨ Signed radix limit text := by
  rw [isSome_read?_iff hradix]
  exact or_congr_left ⟨Row.digits, fun hall => row_of_allDigits hradix hne hall hlimit⟩

/-- A numeral with other characters than digits is signed. -/
lemma isSome_read?_iff_signed (hradix : radix ≤ 16) {text : List Char}
    (h : ¬ AllDigits radix text) : (read? radix limit text).isSome ↔ Signed radix limit text := by
  rw [isSome_read?_iff hradix]
  exact or_iff_right fun hrow => h hrow.digits

/-- Digits are ASCII characters. -/
lemma ascii_of_allDigits (hradix : radix ≤ 16) {text : List Char} (h : AllDigits radix text) :
    ∀ c ∈ text, c.toNat < 0x80 := fun c hc => toNat_lt_of_mem_characters hradix (h c hc)

/-- So are the characters of numerals. -/
lemma ascii_of_isSome_read? (hradix : radix ≤ 16) {text : List Char}
    (h : (read? radix limit text).isSome) : ∀ c ∈ text, c.toNat < 0x80 := by
  obtain hrow | ⟨digits, rfl, hrow⟩ := (isSome_read?_iff hradix text).mp h
  · exact ascii_of_allDigits hradix hrow.digits
  · exact List.forall_mem_cons.mpr ⟨by decide, ascii_of_allDigits hradix hrow.digits⟩

end M68HC11.Text.Numeral
