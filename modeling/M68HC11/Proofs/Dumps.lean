import M68HC11.Proofs.PlusSigns
import Mathlib.Algebra.BigOperators.Group.List.Basic

/-!
Dumps of memory, printed and converted back.

* `Text.flatMap_lines_append`: what a text comes to line by line is made of what
  its parts come to, wherever it is divided by a line feed, if carriage returns
  at the end of a line do not matter and an empty line comes to nothing;
* `DumpRow.Printed` and `HexDump.Prints`: the rows that show sixteen bytes, and
  the texts of such rows and of other lines;
* `DumpRow.ofLine_printed`: a printed row is read as the bytes that it shows;
* `DumpRow.Accepted`: the lines of which bytes are taken, sixteen of each
  (`DumpRow.length_values`);
* `HexDump.dump_recovered`: a printed dump is converted to the bytes of its rows
  without a warning, and a text part by part.
-/

namespace M68HC11

open Text

/-! ### Texts, line by line -/

namespace Text

section

variable {α : Type} {f : List Char → List α} (hempty : f [] = [])
  (hend : ∀ line, f (endLine line) = f line)

include hempty hend

/-- A line feed behind a text changes nothing in what its lines come to. -/
lemma flatMap_linesFrom_append (line s t : List Char) :
    (linesFrom line (s ++ '\n' :: t)).flatMap f =
      (linesFrom line s).flatMap f ++ (lines t).flatMap f := by
  induction s generalizing line with
  | nil =>
      have hlast : f (finishLine line) = (linesFrom line []).flatMap f := by
        have hline := hend line.reverse
        rw [endLine, List.reverse_reverse] at hline
        rw [hline, linesFrom]
        cases line with
        | nil => simp [hempty]
        | cons c line => simp
      simp [linesFrom, hlast, lines]
  | cons c s ih =>
      rw [List.cons_append, linesFrom, linesFrom]
      by_cases hc : c = '\n'
      · simp [hc, ih]
      · simp [hc, ih]

/-- A text divided by a line feed comes to what its parts come to. -/
lemma flatMap_lines_append (s t : List Char) :
    (lines (s ++ '\n' :: t)).flatMap f = (lines s).flatMap f ++ (lines t).flatMap f :=
  flatMap_linesFrom_append hempty hend [] s t

end

end Text

/-! ### Rows -/

namespace DumpRow

/-- A carriage return at the end of a line is taken from it. -/
lemma trimReturns_append_return (line : List Char) :
    trimReturns (line ++ ['\r']) = trimReturns line := by
  simp [trimReturns]

/-- A line is not changed if it ends with another character. -/
lemma trimReturns_append_singleton (line : List Char) {c : Char} (h : c ≠ '\r') :
    trimReturns (line ++ [c]) = line ++ [c] := by
  simp [trimReturns, h]

/-- The carriage return that a line's end takes is one of those that do not
matter. -/
lemma trimReturns_endLine (line : List Char) : trimReturns (endLine line) = trimReturns line := by
  rcases endLine_eq_or line with hline | hline
  · rw [hline]
  · rw [← trimReturns_append_return (endLine line), hline]

/-- A line that begins with no slash begins with none once its carriage returns
are gone. -/
lemma head?_trimReturns {line : List Char} (h : (trimReturns line).head? = some '/') :
    line.head? = some '/' := by
  obtain ⟨returns, hreturns⟩ : trimReturns line <+: line :=
    List.rdropWhile_prefix (fun c => decide (c = '\r')) line
  rw [← hreturns, List.head?_append, h, Option.some_or]

/-- Reading a line does not depend on carriage returns at its end. -/
lemma ofLine_congr {line line' : List Char} (h : trimReturns line = trimReturns line') :
    ofLine line = ofLine line' := by
  rw [ofLine, ofLine, h]

/-- A line that is not as a row has to be is skipped. -/
lemma ofLine_of_skipped {line : List Char}
    (h : line.head? ≠ some '/' ∨ (encode (trimReturns line)).length ≠ length) :
    ofLine line = other := by
  have hnot : ¬((trimReturns line).head? = some '/' ∧
      (encode (trimReturns line)).length = length) :=
    fun hrow => h.elim (fun hhead => hhead (head?_trimReturns hrow.1)) fun hlength => hlength hrow.2
  simp only [ofLine, if_neg hnot]

/-- A text of ASCII characters none of which is a control character. -/
def IsPrintable (text : List Char) : Prop := ∀ c ∈ text, 0x20 ≤ c.toNat ∧ c.toNat ≤ 0x7E

instance (text : List Char) : Decidable (IsPrintable text) :=
  -- not by going through all characters there are
  List.decidableBAll (fun c : Char => 0x20 ≤ c.toNat ∧ c.toNat ≤ 0x7E) text

/-- Printable characters are ASCII. -/
lemma IsPrintable.ascii {text : List Char} (h : IsPrintable text) : ∀ c ∈ text, c.toNat < 0x80 :=
  fun c hc => Nat.lt_of_le_of_lt (h c hc).2 (by decide)

/-- No control character is among them. -/
lemma IsPrintable.notMem {text : List Char} (h : IsPrintable text) {c : Char}
    (hc : c.toNat < 0x20) : c ∉ text :=
  fun hmem => absurd (h c hmem).1 (Nat.not_le.mpr hc)

/-- The rows that show bytes: a slash, eight printable characters, the digits of
sixteen bytes in letters of either case, and two printable characters. -/
inductive Printed : List Char → List UInt8 → Prop
  /-- A row with its parts. -/
  | row {label digits trailer : List Char} {values : List UInt8}
      (hlabel : label.length = 8) (hlabelText : IsPrintable label)
      (hvalues : values.length = bytesPerRow)
      (hdigits : Hex.Spells digits (values.flatMap (Hex.byte .small)))
      (htrailer : trailer.length = 2) (htrailerText : IsPrintable trailer) :
      Printed ('/' :: (label ++ (digits ++ trailer))) values

/-- Each byte has two digits. -/
lemma length_bytes (values : List UInt8) :
    (values.flatMap (Hex.byte .small)).length = 2 * values.length := by
  induction values with
  | nil => rfl
  | cons b values ih =>
      simp only [List.flatMap_cons, List.length_append, List.length_cons, ih]
      simp [Hex.byte]
      omega

/-- Bytes are read from the columns of their digits. -/
lemma pairs?_encode {values : List UInt8} {front digits : List Char}
    (hfront : ∀ c ∈ front, c.toNat < 0x80)
    (hdigits : Hex.Spells digits (values.flatMap (Hex.byte .small))) :
    pairs? (encode (front ++ digits)) front.length values.length = some values := by
  induction values generalizing front digits with
  | nil => rfl
  | cons b values ih =>
      obtain ⟨first, rest, rfl, hfirst, hrest⟩ := hdigits.exists_append
      have hwidth : first.length = 2 := hfirst.length_eq
      have hascii := hfirst.ascii (Hex.isPlain_of_mem_byte b)
      have hfield := field?_encode front first rest
      have hread : Numeral.read? 16 256 first = some b.toNat :=
        hfirst.read?_byte (Nat.le_refl 256)
      have hbehind := ih (List.forall_mem_append.mpr ⟨hfront, hascii⟩) hrest
      rw [length_encode hfront, length_encode hascii, hwidth] at hfield
      rw [List.length_append, hwidth, List.append_assoc] at hbehind
      simp [pairs?, hfield, fieldText_encode hascii, hread, hbehind]

/-- A printed row is read as the bytes that it shows. -/
lemma ofLine_printed {line : List Char} {values : List UInt8} (h : Printed line values) :
    ofLine line = bytes values := by
  obtain @⟨label, digits, trailer, _, hlabel, hlabelText, hvalues, hdigits, htrailer,
    htrailerText⟩ := h
  have hplain := Hex.isPlain_of_mem_bytes values
  have hfront : ∀ c ∈ '/' :: label, c.toNat < 0x80 :=
    List.forall_mem_cons.mpr ⟨by decide, hlabelText.ascii⟩
  have hdigitsAscii := hdigits.ascii hplain
  have hascii : ∀ c ∈ '/' :: (label ++ (digits ++ trailer)), c.toNat < 0x80 := by
    rw [← List.cons_append]
    exact List.forall_mem_append.mpr
      ⟨hfront, List.forall_mem_append.mpr ⟨hdigitsAscii, htrailerText.ascii⟩⟩
  have hcount : digits.length = 2 * bytesPerRow := by
    rw [hdigits.length_eq, length_bytes, hvalues]
  have hlength : (encode ('/' :: (label ++ (digits ++ trailer)))).length = length := by
    rw [length_encode hascii]
    simp only [List.length_cons, List.length_append, hlabel, hcount, htrailer]
    rfl
  -- the row ends with a printable character, which is no carriage return
  have htrim : trimReturns ('/' :: (label ++ (digits ++ trailer))) =
      '/' :: (label ++ (digits ++ trailer)) := by
    obtain ⟨init, last, rfl⟩ := List.eq_nil_or_concat trailer |>.resolve_left (by
      rintro rfl
      cases htrailer)
    have hlast : last ≠ '\r' := by
      rintro rfl
      exact htrailerText.notMem (c := '\r') (by decide) (by simp)
    have hrow := trimReturns_append_singleton ('/' :: (label ++ (digits ++ init))) hlast
    simpa using hrow
  have hfield : field? (encode ('/' :: (label ++ (digits ++ trailer)))) firstColumn
      (2 * bytesPerRow) = some (encode digits) := by
    have hcolumns := field?_encode ('/' :: label) digits trailer
    rw [length_encode hfront, length_encode hdigitsAscii, List.length_cons, hlabel, hcount]
      at hcolumns
    exact hcolumns
  have hpairs : pairs? (encode digits) 0 bytesPerRow = some values := by
    have hread := pairs?_encode (List.forall_mem_nil _) hdigits
    rwa [hvalues] at hread
  simp [ofLine, htrim, hlength, hfield, hpairs]

/-- A printed row is one line. -/
lemma Printed.newline_notMem {line : List Char} {values : List UInt8} (h : Printed line values) :
    '\n' ∉ line := by
  have hcontrol : '\n'.toNat < 0x20 := by decide
  cases h with
  | @row label digits trailer _ _ hlabel _ hdigits _ htrailer =>
      have hplain : '\n' ∉ digits := fun hmem =>
        absurd (hdigits.toNat_of_mem (Hex.isPlain_of_mem_bytes values) _ hmem).1 (by decide)
      simp [hlabel.notMem hcontrol, hplain, htrailer.notMem hcontrol]

/-! ### Rows of which bytes are taken -/

/-- A line of which bytes are taken: it begins with a slash and is as long as a
row, the columns of the digits cut no character in two, and each pair in them is
two digits, or a plus sign and a digit. -/
structure Accepted (line : List Char) : Prop where
  slash : (trimReturns line).head? = some '/'
  length_eq : (encode (trimReturns line)).length = length
  pairs : ∃ digits, field? (encode (trimReturns line)) firstColumn (2 * bytesPerRow) = some digits ∧
    ∀ k < bytesPerRow, Numeral.AllDigits 16 (pair digits k) ∨ Numeral.Signed 16 256 (pair digits k)

/-- Bytes are taken of the accepted lines and of no others. -/
lemma values_ne_nil_iff_accepted (line : List Char) :
    (ofLine line).values ≠ [] ↔ Accepted line := by
  constructor
  · intro h
    have hrow : (trimReturns line).head? = some '/' ∧
        (encode (trimReturns line)).length = length := by
      by_contra hnot
      rw [not_and_or] at hnot
      have hskipped : ofLine line = other := by
        simp only [ofLine, if_neg (not_and_or.mpr hnot)]
      rw [hskipped] at h
      exact h rfl
    exact ⟨hrow.1, hrow.2, (values_ne_nil_iff hrow.1 hrow.2).mp h⟩
  · rintro ⟨hslash, hlength, hpairs⟩
    exact (values_ne_nil_iff hslash hlength).mpr hpairs

instance (line : List Char) : Decidable (Accepted line) :=
  decidable_of_iff _ (values_ne_nil_iff_accepted line)

/-- A line that is read as bytes has all the bytes of a row. -/
lemma length_of_ofLine {line : List Char} {read : List UInt8} (h : ofLine line = bytes read) :
    read.length = bytesPerRow := by
  simp only [ofLine] at h
  split at h
  · split at h
    · cases h
    split at h
    · next hpairs =>
      obtain rfl := DumpRow.bytes.inj h
      exact length_of_pairs? hpairs
    · cases h
  · cases h

/-- Sixteen bytes are taken of an accepted line and none of another one. -/
lemma length_values (line : List Char) :
    (ofLine line).values.length = if Accepted line then bytesPerRow else 0 := by
  by_cases haccepted : Accepted line
  · have hsome := (values_ne_nil_iff_accepted line).mpr haccepted
    rw [if_pos haccepted]
    cases hrow : ofLine line with
    | bytes read => exact length_of_ofLine hrow
    | malformed row => simp [hrow, values] at hsome
    | other => simp [hrow, values] at hsome
  · have hnil := not_not.mp ((values_ne_nil_iff_accepted line).not.mpr haccepted)
    rw [if_neg haccepted, hnil, List.length_nil]

end DumpRow

/-! ### Dumps -/

namespace HexDump

/-- A line of a dump without what ends it, with the rows in it. -/
inductive Line : List Char → List (List UInt8) → Prop
  /-- A row that shows bytes. -/
  | row {line : List Char} {values : List UInt8} (hrow : DumpRow.Printed line values) :
      Line line [values]
  /-- A line that begins with no slash, or is not as long as a row. -/
  | other {line : List Char} (hone : '\n' ∉ line)
      (hskipped : line.head? ≠ some '/' ∨
        (encode (DumpRow.trimReturns line)).length ≠ DumpRow.length) :
      Line line []

/-- A text of rows and other lines, with the bytes of its rows. -/
inductive Prints : List Char → List (List UInt8) → Prop
  /-- The last line, which nothing ends. -/
  | last {line : List Char} {rows : List (List UInt8)} (hline : Line line rows) : Prints line rows
  /-- A line, its end and the lines that follow. -/
  | line {line ending text : List Char} {rows behind : List (List UInt8)} (hline : Line line rows)
      (hending : ending = ['\n'] ∨ ending = ['\r', '\n']) (htext : Prints text behind) :
      Prints (line ++ (ending ++ text)) (rows ++ behind)

/-- There is no line feed in a line. -/
lemma Line.newline_notMem {line : List Char} {shown : List (List UInt8)} (h : Line line shown) :
    '\n' ∉ line := by
  cases h with
  | row hrow => exact hrow.newline_notMem
  | other hone => exact hone

section

variable {α : Type} {g : DumpRow → List α} (hother : g .other = [])

include hother

/-- What a line comes to, given what the rows in it come to. -/
lemma Line.flatMap_eq {line : List Char} {shown : List (List UInt8)}
    (h : Line line shown) :
    g (DumpRow.ofLine line) = shown.flatMap fun values => g (.bytes values) := by
  cases h with
  | row hrow => rw [DumpRow.ofLine_printed hrow, List.flatMap_singleton]
  | other _ hskipped => rw [DumpRow.ofLine_of_skipped hskipped, hother, List.flatMap_nil]

/-- A text divided by a line feed comes to what its parts come to. -/
lemma flatMap_rows_append (s t : List Char) :
    (rows (s ++ '\n' :: t)).flatMap g = (rows s).flatMap g ++ (rows t).flatMap g := by
  simp only [rows, List.flatMap_map]
  refine flatMap_lines_append hother (fun line => ?_) s t
  rw [DumpRow.ofLine_congr (DumpRow.trimReturns_endLine line)]

/-- A text of one line comes to what the line comes to. -/
lemma flatMap_rows_of_notMem {line : List Char} (h : '\n' ∉ line) :
    (rows line).flatMap g = g (DumpRow.ofLine line) := by
  rw [rows, lines_of_notMem h]
  cases line with
  | nil => exact hother.symm
  | cons c line => simp

/-- So it does if more lines follow. -/
lemma flatMap_rows_of_ending {line ending : List Char} (h : '\n' ∉ line)
    (hending : ending = ['\n'] ∨ ending = ['\r', '\n']) (text : List Char) :
    (rows (line ++ (ending ++ text))).flatMap g =
      g (DumpRow.ofLine line) ++ (rows text).flatMap g := by
  rcases hending with rfl | rfl
  · have happend := flatMap_rows_append hother line text
    rwa [flatMap_rows_of_notMem hother h] at happend
  · have hone : '\n' ∉ line ++ ['\r'] := by simpa using h
    have happend := flatMap_rows_append hother (line ++ ['\r']) text
    rw [flatMap_rows_of_notMem hother hone,
      DumpRow.ofLine_congr (DumpRow.trimReturns_append_return line)] at happend
    simpa using happend

/-- A printed text comes to what its rows come to. -/
lemma Prints.flatMap_rows {text : List Char} {shown : List (List UInt8)} (h : Prints text shown) :
    (rows text).flatMap g = shown.flatMap fun values => g (.bytes values) := by
  induction h with
  | last hline => rw [flatMap_rows_of_notMem hother hline.newline_notMem, hline.flatMap_eq hother]
  | line hline hending _ ih =>
      rw [flatMap_rows_of_ending hother hline.newline_notMem hending, ih, hline.flatMap_eq hother,
        List.flatMap_append]

end

/-- A printed text has the bytes of its rows. -/
lemma Prints.bytes_eq {text : List Char} {shown : List (List UInt8)} (h : Prints text shown) :
    bytes text = shown.flatten := by
  rw [bytes, h.flatMap_rows (g := DumpRow.values) rfl, List.flatMap_def]
  exact congrArg List.flatten (List.map_id shown)

/-- Nothing is said about a printed text. -/
lemma Prints.log_eq {text : List Char} {shown : List (List UInt8)} (h : Prints text shown) :
    log text = [] := by
  rw [log, List.filterMap_eq_flatMap_toList,
    h.flatMap_rows (g := fun row => row.warning?.toList) rfl]
  exact List.flatMap_eq_nil_iff.mpr fun _ _ => rfl

/-- A text has sixteen bytes for each line of which bytes are taken. -/
lemma length_bytes (text : List Char) :
    (bytes text).length = DumpRow.bytesPerRow * (lines text).countP (DumpRow.Accepted ·) := by
  rw [bytes, rows, List.flatMap_map]
  induction lines text with
  | nil => rfl
  | cons line rest ih =>
      rw [List.flatMap_cons, List.length_append, ih, DumpRow.length_values, List.countP_cons]
      split_ifs <;> simp_all [Nat.mul_add, Nat.add_comm]

/-- **A dump is recovered from its print**: a text of rows that show sixteen bytes
each, with other lines among them, is converted to the bytes of its rows, one row
after the other, and nothing is said about it. Of any text, sixteen bytes are
taken for each accepted line and none for another, and a text that a line feed
divides is converted part by part. -/
theorem dump_recovered :
    (∀ text shown, Prints text shown → bytes text = shown.flatten ∧ log text = []) ∧
      (∀ text, (bytes text).length = 16 * (lines text).countP (DumpRow.Accepted ·)) ∧
      ∀ s t, bytes (s ++ '\n' :: t) = bytes s ++ bytes t :=
  ⟨fun _ _ h => ⟨h.bytes_eq, h.log_eq⟩, length_bytes, fun s t => flatMap_rows_append rfl s t⟩

/-- The digits of a row, in letters of either case. -/
def mixedDigits : List Char := "86054F5F97401e0012345678abcdEF01".toList

/-- The bytes that they stand for. -/
def mixedBytes : List UInt8 :=
  [0x86, 0x05, 0x4F, 0x5F, 0x97, 0x40, 0x1E, 0x00, 0x12, 0x34, 0x56, 0x78, 0xAB, 0xCD, 0xEF, 0x01]

/-- A dump with a heading, a row, a line that is too short, and the row once more,
now with a carriage return behind it. -/
def headedDump : List Char :=
  let row := '/' :: ("E000:   ".toList ++ (mixedDigits ++ " .".toList))
  "heading".toList ++ (['\n'] ++ (row ++ (['\n'] ++ ("/short".toList ++ (['\n'] ++
    (row ++ (['\r', '\n'] ++ [])))))))

/-- The rows of the dump are recovered. -/
theorem dump_recovered_headed :
    Prints headedDump [mixedBytes, mixedBytes] ∧
      bytes headedDump = [mixedBytes, mixedBytes].flatten ∧ log headedDump = [] := by
  have hrow : Line ('/' :: ("E000:   ".toList ++ (mixedDigits ++ " .".toList))) [mixedBytes] :=
    .row (.row rfl (by decide) rfl (by decide) rfl (by decide))
  have hheading : Line "heading".toList [] := .other (by decide) (.inl (by decide))
  have hshort : Line "/short".toList [] := .other (by decide) (.inr (by decide))
  have hempty : Line [] [] := .other (by decide) (.inl (by decide))
  have hprints : Prints headedDump [mixedBytes, mixedBytes] :=
    .line hheading (.inl rfl) (.line hrow (.inl rfl) (.line hshort (.inl rfl)
      (.line hrow (.inr rfl) (.last hempty))))
  exact ⟨hprints, dump_recovered.1 _ _ hprints⟩

end HexDump

end M68HC11
