import M68HC11.Command.Options
import M68HC11.Proofs.LetterCase
import M68HC11.Proofs.Numerals
import M68HC11.Proofs.Printed

/-!
How numbers, addresses and formats are written.

* `Text.Numeral.Spells`: the texts that stand for a number in a radix, digit by
  digit, with zeros in front and letters of either case. They are read as the number
  if it lies below the limit (`Text.Numeral.read?_of_spells`), and there is one for
  every number (`Text.Numeral.exists_spells`);
* `Address.hexadecimal?`: what stands behind the sign of a hexadecimal address, and
  `Address.value?` the numeral in an address, by which it is read;
* `Address.Written`: an address is written in decimal digits, or in hexadecimal ones
  behind a mark; `Address.readAddress_of_written`: so it is read;
* `ImageFormat.Named`: a format goes by its names in letters of either case;
  `ImageFormat.readFormat_of_named`: by these it is read.
-/

namespace M68HC11

/-! ### Numbers -/

namespace Text.Numeral

variable {radix limit n d : ℕ} {letters : Hex.Letters} {text back : List Char}

/-- The texts of digits that stand for a number. -/
inductive Spells (radix : ℕ) : ℕ → List Char → Prop
  /-- A digit stands for its value. -/
  | digit {d : ℕ} (letters : Hex.Letters) (hd : d < radix) :
      Spells radix d [Hex.digit letters d]
  /-- A digit behind others adds its value to the radix times theirs. -/
  | behind {n d : ℕ} {text : List Char} (letters : Hex.Letters) (h : Spells radix n text)
      (hd : d < radix) : Spells radix (n * radix + d) (text ++ [Hex.digit letters d])

/-- A digit is read as its value, whatever the letters. -/
lemma digit?_hexDigit (hradix : radix ≤ 16) (hd : d < radix) :
    digit? radix (Hex.digit letters d) = some d :=
  digit?_of_lt (Hex.digit?_digit letters d (Nat.lt_of_lt_of_le hd hradix)) hd

/-- Digits in front of others are read first. -/
lemma valueFrom?_append (start : ℕ) (text back : List Char) :
    valueFrom? radix start (text ++ back) =
      (valueFrom? radix start text).bind fun n => valueFrom? radix n back := by
  induction text generalizing start with
  | nil => rfl
  | cons c text ih =>
      rw [List.cons_append, valueFrom?, valueFrom?, Option.bind_assoc]
      exact congrArg _ (funext fun d => ih (start * radix + d))

/-- Digits have the value that they stand for. -/
lemma value?_of_spells (hradix : radix ≤ 16) (h : Spells radix n text) :
    value? radix text = some n := by
  induction h with
  | digit letters hd =>
      rw [value?, valueFrom?, digit?_hexDigit hradix hd, Option.bind_some, Nat.zero_mul,
        Nat.zero_add]
      rfl
  | behind letters h hd ih =>
      rw [value?] at ih
      rw [value?, valueFrom?_append, ih, Option.bind_some, valueFrom?,
        digit?_hexDigit hradix hd]
      rfl

/-- There is at least one digit. -/
lemma Spells.ne_nil (h : Spells radix n text) : text ≠ [] := by
  cases h with
  | digit => exact List.cons_ne_nil _ _
  | behind => exact List.append_ne_nil_of_right_ne_nil _ (List.cons_ne_nil _ _)

lemma Spells.allDigits (hradix : radix ≤ 16) (h : Spells radix n text) :
    AllDigits radix text :=
  (isSome_valueFrom?_iff hradix 0 text).mp
    (Option.isSome_iff_exists.mpr ⟨n, value?_of_spells hradix h⟩)

/-- A number below the limit is read from the digits that stand for it. -/
lemma read?_of_spells (hradix : radix ≤ 16) (h : Spells radix n text) (hlimit : n < limit) :
    read? radix limit text = some n := by
  have hempty : ¬ text.isEmpty = true := mt List.isEmpty_iff.mp h.ne_nil
  rw [read?, digits_of_allDigits hradix (h.allDigits hradix), if_neg hempty,
    value?_of_spells hradix h, Option.filter_some, if_pos (decide_eq_true hlimit)]

/-- Every number can be written. -/
lemma exists_spells (hradix : 1 < radix) (n : ℕ) : ∃ text : String, Spells radix n text.toList := by
  induction n using Nat.strong_induction_on with
  | _ n ih =>
      rcases Nat.lt_or_ge n radix with hlt | hge
      · refine ⟨String.singleton (Hex.digit .small n), ?_⟩
        rw [String.toList_singleton]
        exact .digit .small hlt
      · have hless : n / radix < n := Nat.div_lt_self (by omega) hradix
        obtain ⟨text, htext⟩ := ih (n / radix) hless
        refine ⟨text ++ String.singleton (Hex.digit .small (n % radix)), ?_⟩
        rw [String.toList_append, String.toList_singleton]
        have hspells := htext.behind .small (Nat.mod_lt n (by omega))
        rwa [Nat.div_add_mod'] at hspells

end Text.Numeral

open Text

/-! ### Addresses -/

namespace Address

variable {a : UInt16} {text : String}

/-- What stands behind the sign of a hexadecimal address. -/
def hexadecimal? : List Char → Option (List Char)
  | '0' :: 'x' :: digits | '0' :: 'X' :: digits | '$' :: digits => some digits
  | _ => none

/-- The numeral in an address. -/
def value? (text : List Char) : Option ℕ :=
  match hexadecimal? text with
  | some digits => Numeral.read? 16 65536 digits
  | none => Numeral.read? 10 65536 text

/-- An address is read as its numeral. -/
lemma readAddress_eq (text : String) :
    readAddress text =
      (value? text.toList).elim (.error (.invalidAddress text)) fun n => .ok (UInt16.ofNat n) := by
  have hvalue (chars : List Char) : (match chars with
      | '0' :: 'x' :: digits => Numeral.read? 16 65536 digits
      | '0' :: 'X' :: digits => Numeral.read? 16 65536 digits
      | '$' :: digits => Numeral.read? 16 65536 digits
      | digits => Numeral.read? 10 65536 digits) = value? chars := by
    unfold value? hexadecimal?
    split <;> rfl
  rw [readAddress]
  split
  · next n hn =>
    have hsome : value? text.toList = some n := (hvalue text.toList).symm.trans hn
    rw [hsome, Option.elim_some]
  · next hn =>
    have hnone : value? text.toList = none := (hvalue text.toList).symm.trans hn
    rw [hnone, Option.elim_none]

/-- An address is refused exactly if it has no numeral. -/
lemma readAddress_eq_error_iff (text : String) :
    readAddress text = .error (.invalidAddress text) ↔ ¬ (value? text.toList).isSome := by
  rw [readAddress_eq]
  cases value? text.toList with
  | none => simp
  | some n => simp

/-- The marks of hexadecimal addresses. -/
def marks : List String := ["0x", "0X", "$"]

/-- An address is written in decimal digits, or in hexadecimal ones behind a mark. -/
inductive Written (a : UInt16) (text : String) : Prop
  /-- It is written in decimal digits. -/
  | decimal (h : Numeral.Spells 10 a.toNat text.toList)
  /-- It is written in hexadecimal ones. -/
  | hexadecimal {mark : String} {digits : List Char} (hmark : mark ∈ marks)
      (htext : text.toList = mark.toList ++ digits) (h : Numeral.Spells 16 a.toNat digits)

/-- Behind a mark there are hexadecimal digits. -/
lemma hexadecimal?_of_mem_marks {mark : String} (hmark : mark ∈ marks) (digits : List Char) :
    hexadecimal? (mark.toList ++ digits) = some digits := by
  simp only [marks, List.mem_cons, List.not_mem_nil, or_false] at hmark
  rcases hmark with rfl | rfl | rfl <;> rfl

/-- Decimal digits are not taken for a mark. -/
lemma hexadecimal?_of_allDigits {text : List Char} (h : Numeral.AllDigits 10 text) :
    hexadecimal? text = none := by
  have hnot {c : Char} (hc : c ∉ Numeral.characters 10) : c ∉ text := fun hmem => hc (h c hmem)
  have hx : 'x' ∉ text := hnot (by decide)
  have hX : 'X' ∉ text := hnot (by decide)
  have hdollar : '$' ∉ text := hnot (by decide)
  unfold hexadecimal?
  split
  · exact absurd (List.mem_cons_of_mem _ List.mem_cons_self) hx
  · exact absurd (List.mem_cons_of_mem _ List.mem_cons_self) hX
  · exact absurd List.mem_cons_self hdollar
  · rfl

/-- What is written is read. -/
lemma readAddress_of_written (h : Written a text) : readAddress text = .ok a := by
  have hlimit : a.toNat < 65536 := a.toNat_lt
  have hvalue : value? text.toList = some a.toNat := by
    cases h with
    | decimal h =>
        rw [value?, hexadecimal?_of_allDigits (h.allDigits (by decide))]
        exact Numeral.read?_of_spells (by decide) h hlimit
    | hexadecimal hmark htext h =>
        rw [value?, htext, hexadecimal?_of_mem_marks hmark]
        exact Numeral.read?_of_spells (by decide) h hlimit
  rw [readAddress_eq, hvalue, Option.elim_some, UInt16.ofNat_toNat]

/-- Every address can be written. -/
lemma exists_written (a : UInt16) : ∃ text, Written a text :=
  (Numeral.exists_spells (by decide) a.toNat).imp fun _ h => .decimal h

end Address

/-! ### Formats -/

namespace ImageFormat

variable {f : ImageFormat} {text : String}

/-- The names of a format. -/
def names : ImageFormat → List String
  | sRecord => ["s19", "srec"]
  | elf => ["elf"]
  | binary => ["bin", "binary"]

/-- A format goes by its names in letters of either case. -/
def Named (f : ImageFormat) (text : String) : Prop := ∃ name ∈ f.names, SameSpelling text name

/-- By these it is read. -/
lemma readFormat_of_named (h : f.Named text) : readFormat text = .ok f := by
  obtain ⟨name, hname, hspelling⟩ := h
  have hlower : lowerAscii text = lowerAscii name :=
    beq_iff_eq.mp ((sameName_iff text name).mpr hspelling)
  have hall : ∀ f : ImageFormat, ∀ name ∈ f.names, ofName? name = some f := by
    intro f
    cases f <;> decide +kernel
  have hread : ofName? text = some f := by
    rw [ofName?, hlower]
    exact hall f name hname
  rw [readFormat, hread]

/-- Every format has a name. -/
lemma exists_named (f : ImageFormat) : ∃ text, f.Named text := by
  obtain ⟨name, hname⟩ : ∃ name, name ∈ f.names := by
    cases f <;> exact ⟨_, List.mem_cons_self⟩
  exact ⟨name, name, hname, (sameName_iff name name).mp (sameName_refl name)⟩

end ImageFormat

end M68HC11
