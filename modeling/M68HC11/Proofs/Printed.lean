import M68HC11.Text.Hex
import M68HC11.Text.Numeral
import Mathlib.Tactic.Common

/-!
Printed numbers, read back.

* `Text.lastWord`: what follows the last blank;
* `Text.isPlain`: small letters and digits, of which printed numbers are made
  (`Hex.isPlain_of_mem_markedWord`);
* `Text.Hex.readByte?` and `Text.Hex.readWord?` read what `markedByte` and
  `markedWord` print (`readByte?_markedByte`, `readWord?_markedWord`), so that
  printed numbers are told apart whatever follows them
  (`markedByte_append_inj`, `markedWord_append_inj`);
* `Text.toDigits_append_inj`: so are numbers in decimal digits, up to the
  comma that follows them.
-/

namespace M68HC11.Text

/-! ### Texts in parts -/

/-- What stands in front of a character that it does not have. -/
lemma takeWhile_ne_append {front : List Char} {c : Char} (h : c ∉ front) (rest : List Char) :
    (front ++ c :: rest).takeWhile (· ≠ c) = front := by
  have hfront : ∀ d ∈ front, decide (d ≠ c) = true := by
    intro d hd
    exact decide_eq_true fun heq => h (heq ▸ hd)
  rw [List.takeWhile_append_of_pos hfront, List.takeWhile_cons_of_neg (by simp), List.append_nil]

/-- Texts are divided in one way by a character that their fronts do not
have. -/
lemma append_cons_inj {front front' s t : List Char} {c : Char} (h : c ∉ front) (h' : c ∉ front')
    (heq : front ++ c :: s = front' ++ c :: t) : front = front' ∧ s = t := by
  have hfront : front = front' := by
    rw [← takeWhile_ne_append h s, heq, takeWhile_ne_append h' t]
  subst hfront
  exact ⟨rfl, (List.cons.inj (List.append_cancel_left heq)).2⟩

/-- What follows the last blank of a text. -/
def lastWord (text : List Char) : List Char := (text.reverse.takeWhile (· ≠ ' ')).reverse

/-- A word without blanks that follows a blank is the last one. -/
lemma lastWord_append (text : List Char) {word : List Char} (h : ' ' ∉ word) :
    lastWord (text ++ ' ' :: word) = word := by
  have hreverse : (text ++ ' ' :: word).reverse = word.reverse ++ ' ' :: text.reverse := by simp
  rw [lastWord, hreverse, takeWhile_ne_append (by simpa using h), List.reverse_reverse]

/-! ### Plain characters -/

/-- Whether a character is a small letter or a digit. -/
def isPlain (c : Char) : Bool := c.isLower || c.isDigit

/-- The characters of a text that are neither small letters nor digits. -/
def marks (text : List Char) : List Char := text.filter (!isPlain ·)

/-- Small letters and digits are no marks. -/
lemma marks_eq_nil {text : List Char} (h : ∀ c ∈ text, isPlain c = true) : marks text = [] := by
  rw [marks, List.filter_eq_nil_iff]
  intro c hc
  rw [h c hc]
  decide

/-- The marks of a text in two parts. -/
lemma marks_append (s t : List Char) : marks (s ++ t) = marks s ++ marks t :=
  List.filter_append s t

/-- A text of small letters and digits has no blank. -/
lemma blank_notMem {text : List Char} (h : ∀ c ∈ text, isPlain c = true) : ' ' ∉ text :=
  fun hmem => absurd (h ' ' hmem) (by decide)

/-! ### Decimal digits -/

/-- Decimal digits are plain. -/
lemma isPlain_of_mem_toDigits {n : Nat} : ∀ c ∈ Nat.toDigits 10 n, isPlain c = true := by
  intro c hc
  rw [isPlain, Nat.isDigit_of_mem_toDigits (by decide) (Nat.le_refl 10) hc, Bool.or_true]

/-- Numbers in decimal digits are told apart up to the comma behind them. -/
lemma toDigits_append_inj {n k : Nat} {s t : List Char}
    (h : Nat.toDigits 10 n ++ ',' :: s = Nat.toDigits 10 k ++ ',' :: t) : n = k ∧ s = t := by
  have hcomma (n : Nat) : ',' ∉ Nat.toDigits 10 n := fun hmem =>
    absurd (isPlain_of_mem_toDigits _ hmem) (by decide)
  obtain ⟨hdigits, hrest⟩ := append_cons_inj (hcomma n) (hcomma k) h
  refine ⟨?_, hrest⟩
  rw [← Nat.ofDigitChars_toDigits (b := 10) (n := n) (by decide) (Nat.le_refl 10), hdigits,
    Nat.ofDigitChars_toDigits (by decide) (Nat.le_refl 10)]

namespace Hex

/-! ### Digits -/

/-- A printed digit is read as its value. -/
lemma digit?_digit (letters : Letters) :
    ∀ value < 16, Numeral.digit? 16 (digit letters value) = some value := by
  cases letters <;> decide

/-- A printed digit is plain. -/
lemma isPlain_digit : ∀ value < 16, isPlain (digit .small value) = true := by
  decide

/-- The two halves of a byte are digits. -/
lemma halves_lt (b : UInt8) : b.toNat / 16 < 16 ∧ b.toNat % 16 < 16 := by
  have hlt := b.toNat_lt
  omega

/-- The digits of a byte behind others. -/
lemma valueFrom?_byte (start : Nat) (b : UInt8) (rest : List Char) :
    Numeral.valueFrom? 16 start (byte .small b ++ rest) =
      Numeral.valueFrom? 16 (start * 256 + b.toNat) rest := by
  obtain ⟨hhigh, hlow⟩ := halves_lt b
  have hvalue : (start * 16 + b.toNat / 16) * 16 + b.toNat % 16 = start * 256 + b.toNat := by
    omega
  simp only [byte, List.cons_append, List.nil_append, Numeral.valueFrom?, digit?_digit _ _ hhigh,
    digit?_digit _ _ hlow, Option.bind_some, hvalue]

/-! ### Bytes and words -/

/-- The digits of a byte stand for it. -/
lemma value?_byte (b : UInt8) : Numeral.value? 16 (byte .small b) = some b.toNat := by
  have hvalue := valueFrom?_byte 0 b []
  rwa [List.append_nil, Nat.zero_mul, Nat.zero_add] at hvalue

/-- The digits of a word stand for it. -/
lemma value?_word (w : UInt16) : Numeral.value? 16 (word .small w) = some w.toNat := by
  have hlow := valueFrom?_byte (Word.high w).toNat (Word.low w) []
  rw [List.append_nil] at hlow
  rw [Numeral.value?, word, valueFrom?_byte, Nat.zero_mul, Nat.zero_add, hlow,
    Numeral.valueFrom?, ← Word.toNat_join, Word.join_high_low]

/-- The byte that is printed behind the marker of hexadecimal numbers. -/
def readByte? : List Char → Option UInt8
  | '0' :: 'x' :: digits => (Numeral.value? 16 digits).map UInt8.ofNat
  | _ => none

/-- The word that is printed behind the marker of hexadecimal numbers. -/
def readWord? : List Char → Option UInt16
  | '0' :: 'x' :: digits => (Numeral.value? 16 digits).map UInt16.ofNat
  | _ => none

lemma readByte?_markedByte (b : UInt8) : readByte? (markedByte b) = some b := by
  rw [markedByte, readByte?, value?_byte, Option.map_some, UInt8.ofNat_toNat]

lemma readWord?_markedWord (w : UInt16) : readWord? (markedWord w) = some w := by
  rw [markedWord, readWord?, value?_word, Option.map_some, UInt16.ofNat_toNat]

/-- Printed bytes are told apart, whatever follows them. -/
lemma markedByte_append_inj {a b : UInt8} {s t : List Char}
    (h : markedByte a ++ s = markedByte b ++ t) : a = b ∧ s = t := by
  obtain ⟨hprinted, hrest⟩ := List.append_inj h rfl
  refine ⟨Option.some.inj ?_, hrest⟩
  rw [← readByte?_markedByte a, hprinted, readByte?_markedByte]

/-- Printed words are told apart, whatever follows them. -/
lemma markedWord_append_inj {v w : UInt16} {s t : List Char}
    (h : markedWord v ++ s = markedWord w ++ t) : v = w ∧ s = t := by
  obtain ⟨hprinted, hrest⟩ := List.append_inj h rfl
  refine ⟨Option.some.inj ?_, hrest⟩
  rw [← readWord?_markedWord v, hprinted, readWord?_markedWord]

/-- A printed byte is plain. -/
lemma isPlain_of_mem_byte (b : UInt8) : ∀ c ∈ byte .small b, isPlain c = true := by
  obtain ⟨hhigh, hlow⟩ := halves_lt b
  intro c hc
  rw [byte, List.mem_cons, List.mem_singleton] at hc
  rcases hc with rfl | rfl
  · exact isPlain_digit _ hhigh
  · exact isPlain_digit _ hlow

/-- So are printed bytes, one after the other. -/
lemma isPlain_of_mem_bytes (bytes : List UInt8) :
    ∀ c ∈ bytes.flatMap (byte .small), isPlain c = true := by
  intro c hc
  obtain ⟨b, -, hb⟩ := List.mem_flatMap.mp hc
  exact isPlain_of_mem_byte b c hb

/-- A printed word is plain. -/
lemma isPlain_of_mem_word (w : UInt16) : ∀ c ∈ word .small w, isPlain c = true := by
  intro c hc
  rcases List.mem_append.mp hc with hhigh | hlow
  · exact isPlain_of_mem_byte _ c hhigh
  · exact isPlain_of_mem_byte _ c hlow

/-- Plain characters stay so behind the marker of hexadecimal numbers. -/
lemma isPlain_of_mem_marked {digits : List Char} (h : ∀ c ∈ digits, isPlain c = true) :
    ∀ c ∈ '0' :: 'x' :: digits, isPlain c = true := by
  intro c hc
  rw [List.mem_cons, List.mem_cons] at hc
  rcases hc with rfl | rfl | hc
  · decide
  · decide
  · exact h c hc

lemma isPlain_of_mem_markedByte (b : UInt8) : ∀ c ∈ markedByte b, isPlain c = true :=
  isPlain_of_mem_marked (isPlain_of_mem_byte b)

lemma isPlain_of_mem_markedWord (w : UInt16) : ∀ c ∈ markedWord w, isPlain c = true :=
  isPlain_of_mem_marked (isPlain_of_mem_word w)

end Hex

end M68HC11.Text
