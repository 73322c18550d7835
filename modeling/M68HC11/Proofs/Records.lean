import M68HC11.Image.SRecord
import M68HC11.Proofs.Layout

/-!
Texts of records, and what loading them does.

* `SRecord.Line` and `SRecord.Describes`: the lines that hold a block or
  nothing, and the texts made of such lines, up to the record with the entry
  address, behind which anything may stand;
* `SRecord.number_encode` and `SRecord.payload_encode`: fields of digits are
  read from the columns that they stand in;
* `SRecord.readLines_of_describes`: the blocks and the entry address of a text
  are those that it describes;
* `load_ofSRecords`: such a text is read without an error, and loading it
  writes its blocks in order and then goes to its entry address.
-/

namespace M68HC11

open Text

/-! ### Blocks in order -/

/-- The image with blocks in front of its own. -/
def Image.prepend (blocks : List (UInt16 × List UInt8)) (image : Image) : Image :=
  blocks.foldr (fun b image => image.cons ⟨b.1, b.2, []⟩) image

/-- The memory with blocks written to it, in order. -/
def Memory.writeBlocks (m : Memory) (blocks : List (UInt16 × List UInt8)) : Memory :=
  blocks.foldl (fun m b => m.writeBlock b.1 b.2) m

/-- The machine with blocks written to its memory, in order. -/
def Machine.writeBlocks (m : Machine) (blocks : List (UInt16 × List UInt8)) : Machine :=
  blocks.foldl (fun m b => m.writeBlock b.1 b.2) m

namespace Image

/-- Blocks are put in front in parts. -/
lemma prepend_append (image : Image) (front back : List (UInt16 × List UInt8)) :
    image.prepend (front ++ back) = (image.prepend back).prepend front :=
  List.foldr_append

/-- Reading ends as it does without the blocks in front. -/
lemma error?_prepend (image : Image) (blocks : List (UInt16 × List UInt8)) :
    (image.prepend blocks).error? = image.error? := by
  induction blocks with
  | nil => rfl
  | cons b blocks ih => exact ih

end Image

namespace Core

/-- The blocks in front of an image are written before it is loaded. -/
lemma load_prepend (c : Core) (blocks : List (UInt16 × List UInt8)) (image : Image) :
    c.load (image.prepend blocks) = (c.putMemory (c.memory.writeBlocks blocks)).load image := by
  induction blocks generalizing c with
  | nil => rfl
  | cons b blocks ih => exact ih (c.putMemory (c.memory.writeBlock b.1 b.2))

/-- An image without blocks sets the program counter, if it has an entry
address. -/
lemma load_ofEnding (c : Core) (entry : Option UInt16) :
    c.load (.ofEnding (.ok entry)) =
      c.putRegisters { c.registers with pc := entry.getD c.registers.pc } := by
  cases entry <;> rfl

end Core

namespace Machine

lemma tell_nil (m : Machine) : m.tell [] = m := by
  simp [tell]

/-- Notices are told in parts. -/
lemma tell_append (m : Machine) (s t : List Notice) : m.tell (s ++ t) = (m.tell s).tell t := by
  have hjournal : m.journal ++ (s ++ t) = m.journal ++ s ++ t := by
    apply Array.ext'
    simp
  rw [tell, hjournal]
  rfl

/-- The block in front of an image is written before the image is loaded. -/
lemma load_cons (m : Machine) (address : UInt16) (bytes : List UInt8) (image : Image) :
    m.load (image.cons ⟨address, bytes, []⟩) = (m.writeBlock address bytes).load image := by
  have hlog : ((image.cons ⟨address, bytes, []⟩).log.map Notice.log) =
      faultNotices (Memory.blockFaults address bytes.length) ++ image.log.map .log := by
    rw [faultNotices, Image.log, Image.cons, List.flatMap_cons, List.map_append, Block.log,
      List.nil_append, List.map_map]
    rfl
  rw [load, hlog, tell_append]
  rfl

/-- The blocks in front of an image are written before it is loaded. -/
lemma load_prepend (m : Machine) (blocks : List (UInt16 × List UInt8)) (image : Image) :
    m.load (image.prepend blocks) = (m.writeBlocks blocks).load image := by
  induction blocks generalizing m with
  | nil => rfl
  | cons b blocks ih => exact (m.load_cons b.1 b.2 _).trans (ih (m.writeBlock b.1 b.2))

/-- An image without blocks sets the program counter, if it has an entry
address. -/
lemma load_ofEnding (m : Machine) (entry : Option UInt16) :
    m.load (.ofEnding (.ok entry)) = entry.elim m m.setPc := by
  cases entry with
  | none => exact m.tell_nil
  | some address => exact (m.setPc address).tell_nil

end Machine

namespace SRecord

/-! ### Texts of records -/

/-- The digits of a record of type 1, up to its checksum. -/
def dataDigits (count : UInt8) (address : UInt16) (payload : List UInt8) : List Char :=
  Hex.byte .small count ++ (Hex.word .small address ++ payload.flatMap (Hex.byte .small))

/-- The digits of a record are plain. -/
lemma isPlain_of_mem_dataDigits (count : UInt8) (address : UInt16) (payload : List UInt8) :
    ∀ d ∈ dataDigits count address payload, isPlain d = true := by
  refine List.forall_mem_append.mpr ⟨Hex.isPlain_of_mem_byte count, ?_⟩
  exact List.forall_mem_append.mpr
    ⟨Hex.isPlain_of_mem_word address, Hex.isPlain_of_mem_bytes payload⟩

/-- A line with a block or without one, up to the blanks at its end. -/
inductive Line : List Char → List (UInt16 × List UInt8) → Prop
  /-- A record of type 1: the count of what follows it, the address, the payload
  and any two characters for the checksum. -/
  | data {digits checksum : List Char} {count : UInt8} {address : UInt16} {payload : List UInt8}
      (hcount : count.toNat = payload.length + 3)
      (hdigits : Hex.Spells digits (dataDigits count address payload))
      (hchecksum : checksum.length = 2) :
      Line ('S' :: '1' :: (digits ++ checksum)) [(address, payload)]
  /-- A record of a type that is neither 1 nor 9. -/
  | other {rest : List Char} (hdata : rest.head? ≠ some '1') (hentry : rest.head? ≠ some '9') :
      Line ('S' :: rest) []
  /-- A blank line. -/
  | blank : Line [] []

/-- An empty line has no block. -/
lemma Line.eq_nil {block : List (UInt16 × List UInt8)} (h : Line [] block) : block = [] := by
  cases h
  rfl

/-- A text with the blocks and the entry address that it describes. -/
inductive Describes : List Char → List (UInt16 × List UInt8) → Option UInt16 → Prop
  /-- The last line, which nothing ends. -/
  | last {record blanks : List Char} {block : List (UInt16 × List UInt8)}
      (hrecord : Line record block) (hblanks : ∀ c ∈ blanks, isBlank c = true)
      (hone : '\n' ∉ record ++ blanks) :
      Describes (record ++ blanks) block none
  /-- A line, its end and the lines that follow. -/
  | line {record blanks ending text : List Char} {block blocks : List (UInt16 × List UInt8)}
      {entry : Option UInt16}
      (hrecord : Line record block) (hblanks : ∀ c ∈ blanks, isBlank c = true)
      (hone : '\n' ∉ record ++ blanks) (hending : ending = ['\n'] ∨ ending = ['\r', '\n'])
      (htext : Describes text blocks entry) :
      Describes (record ++ (blanks ++ (ending ++ text))) (block ++ blocks) entry
  /-- A record of type 9: two characters for the count, the entry address and
  any text. -/
  | entry {c d : Char} {digits rest : List Char} {address : UInt16}
      (hc : c.toNat < 0x80 ∧ c ≠ '\n') (hd : d.toNat < 0x80 ∧ d ≠ '\n')
      (hdigits : Hex.Spells digits (Hex.word .small address)) :
      Describes ('S' :: '9' :: c :: d :: (digits ++ rest)) [] (some address)

/-! ### Fields -/

variable (line : Nat)

/-- A number is read from its columns. -/
lemma number_encode {front field : List Char} {value : Nat}
    (hfront : ∀ c ∈ front, c.toNat < 0x80) (hfield : ∀ c ∈ field, c.toNat < 0x80)
    (hread : Numeral.read? 16 65536 field = some value) (tail : List Char) :
    number line (encode (front ++ (field ++ tail))) front.length field.length = .ok value := by
  have hcolumns := field?_encode front field tail
  rw [length_encode hfront, length_encode hfield] at hcolumns
  rw [number, hcolumns]
  simp only [fieldText_encode hfield, hread]

/-- A payload is read from the columns of its digits. -/
lemma payload_encode {payload : List UInt8} {front digits : List Char}
    (hfront : ∀ c ∈ front, c.toNat < 0x80)
    (hdigits : Hex.Spells digits (payload.flatMap (Hex.byte .small))) (tail : List Char) :
    SRecord.payload line (encode (front ++ (digits ++ tail))) front.length payload.length =
      .ok payload := by
  induction payload generalizing front digits with
  | nil => rfl
  | cons b payload ih =>
      obtain ⟨first, rest, rfl, hfirst, hrest⟩ := hdigits.exists_append
      have hwidth : first.length = 2 := hfirst.length_eq
      have hascii := hfirst.ascii (Hex.isPlain_of_mem_byte b)
      have hread : Numeral.read? 16 65536 first = some b.toNat :=
        hfirst.read?_byte (by decide)
      have hnumber := number_encode line hfront hascii hread (rest ++ tail)
      have hbehind := ih (List.forall_mem_append.mpr ⟨hfront, hascii⟩) hrest
      rw [List.length_append, hwidth, List.append_assoc] at hbehind
      rw [hwidth] at hnumber
      rw [List.length_cons, SRecord.payload, List.append_assoc, hnumber]
      simp only [b.toNat_lt, if_true, hbehind, UInt8.ofNat_toNat]

/-! ### Records -/

/-- A record of type 1 is read as its block, whatever follows the payload. -/
lemma ofLine_data {digits : List Char} {count : UInt8} {address : UInt16} {payload : List UInt8}
    (hcount : count.toNat = payload.length + 3)
    (hdigits : Hex.Spells digits (dataDigits count address payload)) (tail : List Char) :
    ofLine line (encode ('S' :: '1' :: (digits ++ tail))) = .ok (.data address payload) := by
  obtain ⟨countText, behind, rfl, hcountText, hbehind⟩ := hdigits.exists_append
  obtain ⟨addressText, payloadText, rfl, haddressText, hpayloadText⟩ := hbehind.exists_append
  have hcountAscii := hcountText.ascii (Hex.isPlain_of_mem_byte count)
  have haddressAscii := haddressText.ascii (Hex.isPlain_of_mem_word address)
  have hfront : ∀ c ∈ ['S', '1'], c.toNat < 0x80 := by simp
  have hcountFront : ∀ c ∈ ['S', '1'] ++ countText, c.toNat < 0x80 :=
    List.forall_mem_append.mpr ⟨hfront, hcountAscii⟩
  have haddressFront : ∀ c ∈ ['S', '1'] ++ countText ++ addressText, c.toNat < 0x80 :=
    List.forall_mem_append.mpr ⟨hcountFront, haddressAscii⟩
  have hcountWidth : countText.length = 2 := hcountText.length_eq
  have haddressWidth : addressText.length = 4 := haddressText.length_eq
  set record := encode ('S' :: '1' :: (countText ++ (addressText ++ payloadText) ++ tail))
    with hrecord
  have hreadCount : number line record 2 2 = .ok count.toNat := by
    have h := number_encode line hfront hcountAscii (hcountText.read?_byte (by decide))
      (addressText ++ (payloadText ++ tail))
    simpa [hcountWidth, hrecord] using h
  have hreadAddress : number line record 4 4 = .ok address.toNat := by
    have h := number_encode line hcountFront haddressAscii haddressText.read?_word
      (payloadText ++ tail)
    simpa [hcountWidth, haddressWidth, hrecord] using h
  have hreadPayload : SRecord.payload line record 8 payload.length = .ok payload := by
    have h := payload_encode line haddressFront hpayloadText tail
    simpa [hcountWidth, haddressWidth, hrecord] using h
  have hlength : count.toNat - 3 = payload.length := by omega
  have hmark : record[0]? = some 'S'.toUInt8 := rfl
  have htype : record[1]? = some '1'.toUInt8 := rfl
  rw [ofLine, if_neg (not_not_intro hmark), if_pos htype, readData, hreadCount]
  simp only [hreadAddress, hlength, hreadPayload, UInt16.ofNat_toNat]

/-- A record of another type is read as such. -/
lemma ofLine_other {rest : List Char} (hdata : rest.head? ≠ some '1')
    (hentry : rest.head? ≠ some '9') : ofLine line (encode ('S' :: rest)) = .ok .other := by
  have htype (c : Char) (hc : c.toNat < 0x80) (hne : rest.head? ≠ some c) :
      (encode ('S' :: rest))[1]? ≠ some c.toUInt8 := by
    rw [encode_cons (by decide), List.getElem?_cons_succ, ← List.head?_eq_getElem?]
    exact fun h => hne (head?_of_head?_encode hc h)
  have hmark : (encode ('S' :: rest))[0]? = some 'S'.toUInt8 := rfl
  rw [ofLine, if_neg (not_not_intro hmark), if_neg (htype '1' (by decide) hdata),
    if_neg (htype '9' (by decide) hentry)]

/-- A record of type 9 is read as its entry address, whatever follows. -/
lemma ofLine_entry {c d : Char} {digits : List Char} {address : UInt16} (hc : c.toNat < 0x80)
    (hd : d.toNat < 0x80) (hdigits : Hex.Spells digits (Hex.word .small address))
    (tail : List Char) :
    ofLine line (encode ('S' :: '9' :: c :: d :: (digits ++ tail))) = .ok (.entry address) := by
  have hfront : ∀ e ∈ ['S', '9', c, d], e.toNat < 0x80 := by
    simp [hc, hd]
  have hascii := hdigits.ascii (Hex.isPlain_of_mem_word address)
  have hwidth : digits.length = 4 := hdigits.length_eq
  have hread := number_encode line hfront hascii hdigits.read?_word tail
  rw [hwidth] at hread
  set record := encode ('S' :: '9' :: c :: d :: (digits ++ tail))
  have haddress : number line record 4 4 = .ok address.toNat := hread
  have hmark : record[0]? = some 'S'.toUInt8 := rfl
  have htype : record[1]? = some '9'.toUInt8 := rfl
  have hdata : record[1]? ≠ some '1'.toUInt8 := by
    rw [htype]
    decide
  rw [ofLine, if_neg (not_not_intro hmark), if_neg hdata, if_pos htype, readEntry, haddress]
  simp only [UInt16.ofNat_toNat]

/-! ### Lines -/

/-- A line is read as its block or as nothing, and reading goes on. -/
lemma readLines_cons {record first : List Char} {block : List (UInt16 × List UInt8)}
    (hrecord : Line record block) (hfirst : trimEnd first = trimEnd record)
    (more : List (List Char)) :
    readLines line (first :: more) = (readLines (line + 1) more).prepend block := by
  rw [readLines, hfirst]
  cases hrecord with
  | @data digits checksum count address payload hcount hdigits hchecksum =>
      have htrim : trimEnd ('S' :: '1' :: (digits ++ checksum)) =
          'S' :: '1' :: (digits ++ trimEnd checksum) :=
        hdigits.trimEnd_append (isPlain_of_mem_dataDigits count address payload)
          (List.cons_ne_nil _ _) ['S', '1'] checksum
      simp only [htrim, List.isEmpty_cons, Bool.false_eq_true, if_false,
        ofLine_data line hcount hdigits]
      rfl
  | @other rest hdata hentry =>
      have htrim : trimEnd ('S' :: rest) = 'S' :: trimEnd rest := trimEnd_append_cons [] rest rfl
      have hhead (c : Char) (hne : rest.head? ≠ some c) : (trimEnd rest).head? ≠ some c :=
        fun h => hne (head?_of_head?_trimEnd h)
      simp only [htrim, List.isEmpty_cons, Bool.false_eq_true, if_false,
        ofLine_other line (hhead '1' hdata) (hhead '9' hentry)]
      rfl
  | blank => rfl

/-- The record with the entry address ends the reading. -/
lemma readLines_entry {c d : Char} {digits first tail : List Char} {address : UInt16}
    (hc : c.toNat < 0x80) (hd : d.toNat < 0x80)
    (hdigits : Hex.Spells digits (Hex.word .small address))
    (hfirst : trimEnd first = trimEnd ('S' :: '9' :: c :: d :: (digits ++ tail)))
    (more : List (List Char)) :
    readLines line (first :: more) = .ofEnding (.ok (some address)) := by
  have htrim : trimEnd ('S' :: '9' :: c :: d :: (digits ++ tail)) =
      'S' :: '9' :: c :: d :: (digits ++ trimEnd tail) :=
    hdigits.trimEnd_append (Hex.isPlain_of_mem_word address) (List.cons_ne_nil _ _)
      ['S', '9', c, d] tail
  rw [readLines, hfirst, htrim]
  simp only [List.isEmpty_cons, Bool.false_eq_true, if_false, ofLine_entry line hc hd hdigits]

/-! ### Texts -/

/-- The first line of a text is read, and then the rest. -/
lemma readLines_append {record blanks : List Char} {block : List (UInt16 × List UInt8)}
    (hrecord : Line record block) (hblanks : ∀ c ∈ blanks, isBlank c = true)
    (hone : '\n' ∉ record ++ blanks) (text : List Char) :
    readLines line (lines (record ++ (blanks ++ '\n' :: text))) =
      (readLines (line + 1) (lines text)).prepend block := by
  have htrim : trimEnd (endLine (record ++ blanks)) = trimEnd record := by
    rw [trimEnd_endLine, trimEnd_append_of_blank record hblanks]
  rw [← List.append_assoc, lines_append_newline hone, readLines_cons line hrecord htrim]

/-- A text is read as the blocks and the entry address that it describes. -/
theorem readLines_of_describes {text : List Char} {blocks : List (UInt16 × List UInt8)}
    {entry : Option UInt16} (h : Describes text blocks entry) :
    readLines line (lines text) = (Image.ofEnding (.ok entry)).prepend blocks := by
  induction h generalizing line with
  | @last record blanks block hrecord hblanks hone =>
      rw [lines_of_notMem hone]
      split
      · next hempty =>
        obtain ⟨rfl, rfl⟩ := List.append_eq_nil_iff.mp (List.isEmpty_iff.mp hempty)
        rw [hrecord.eq_nil]
        rfl
      · exact readLines_cons line hrecord (trimEnd_append_of_blank record hblanks) []
  | @line record blanks ending text block blocks entry hrecord hblanks hone hending htext ih =>
      rw [Image.prepend_append, ← ih (line + 1)]
      rcases hending with rfl | rfl
      · exact readLines_append line hrecord hblanks hone text
      · -- The carriage return is one more blank.
        have hreturn : ∀ c ∈ blanks ++ ['\r'], isBlank c = true :=
          List.forall_mem_append.mpr ⟨hblanks, List.forall_mem_singleton.mpr rfl⟩
        have hall : '\n' ∉ record ++ (blanks ++ ['\r']) := by
          simpa using hone
        have hline := readLines_append line hrecord hreturn hall text
        rwa [List.append_assoc] at hline
  | @entry c d digits rest address hc hd hdigits =>
      have hline : '\n' ∉ 'S' :: '9' :: c :: d :: digits := by
        have hcodes := hdigits.toNat_of_mem (Hex.isPlain_of_mem_word address)
        have hdigit : '\n' ∉ digits := fun h => absurd (hcodes '\n' h) (by decide)
        simp [hc.2.symm, hd.2.symm, hdigit]
      obtain ⟨first, more, tail, hlines, hfirst⟩ :=
        exists_lines_append hline (List.cons_ne_nil _ _) rest
      have hread := readLines_entry line hc.1 hd.1 hdigits hfirst more
      rwa [← hlines] at hread

end SRecord

/-! ### Loading a text of records -/

/-- **A text of records loads as the image that it describes.** It is read
without an error; a core that it is loaded into has the blocks in its memory,
written in the order of the lines, goes on at the entry address if there is
one, and keeps its other registers and its traps; and loading it into a
machine comes to writing its blocks there and setting the program counter. -/
theorem load_ofSRecords {text : List Char} {blocks : List (UInt16 × List UInt8)}
    {entry : Option UInt16} (h : SRecord.Describes text blocks entry) :
    (Image.ofSRecords text).error? = none ∧
      (∀ c : Core, c.load (Image.ofSRecords text) =
        ⟨⟨{ c.registers with pc := entry.getD c.registers.pc }, c.memory.writeBlocks blocks⟩,
          c.traps⟩) ∧
      ∀ m : Machine, m.load (Image.ofSRecords text) =
        entry.elim (m.writeBlocks blocks) (m.writeBlocks blocks).setPc := by
  have himage : Image.ofSRecords text = (Image.ofEnding (.ok entry)).prepend blocks :=
    SRecord.readLines_of_describes 1 h
  rw [himage]
  refine ⟨?_, fun c => ?_, fun m => ?_⟩
  · rw [Image.error?_prepend]
    rfl
  · rw [Core.load_prepend, Core.load_ofEnding]
    rfl
  · rw [Machine.load_prepend, Machine.load_ofEnding]

namespace SRecord

/-- Two blocks that share an address, the first of them around the end of the
address space, with a header in front and lines that are no records behind the
entry address. -/
def sharedAddress : List Char :=
  "S0030000FC\r\nS105ffff8aBc!? \n\nS1040000D5.-\r\nS9032000DC\nend".toList

lemma describes_sharedAddress :
    Describes sharedAddress [(0xFFFF, [0x8A, 0xBC]), (0, [0xD5])] (some 0x2000) := by
  have hheader : Line "S0030000FC".toList [] :=
    @Line.other "0030000FC".toList (by decide) (by decide)
  have hwrapped : Line "S105ffff8aBc!?".toList [(0xFFFF, [0x8A, 0xBC])] :=
    @Line.data "05ffff8aBc".toList "!?".toList 5 _ _ (by decide) (by decide) (by decide)
  have hfirst : Line "S1040000D5.-".toList [(0, [0xD5])] :=
    @Line.data "040000D5".toList ".-".toList 4 _ _ (by decide) (by decide) (by decide)
  have hentry : Describes "S9032000DC\nend".toList [] (some 0x2000) :=
    @Describes.entry '0' '3' "2000".toList "DC\nend".toList _ (by decide) (by decide) (by decide)
  have hnone : ∀ c ∈ ([] : List Char), isBlank c = true := List.forall_mem_nil _
  have hblank : ∀ c ∈ [' '], isBlank c = true := List.forall_mem_singleton.mpr rfl
  exact .line hheader hnone (by decide) (.inr rfl)
    (.line hwrapped hblank (by decide) (.inl rfl)
      (.line .blank hnone (by decide) (.inl rfl)
        (.line hfirst hnone (by decide) (.inr rfl) hentry)))

end SRecord

/-- Where the two blocks meet, the second one is in memory. -/
theorem load_ofSRecords_sharedAddress :
    SRecord.Describes SRecord.sharedAddress [(0xFFFF, [0x8A, 0xBC]), (0, [0xD5])] (some 0x2000) ∧
      (Image.ofSRecords SRecord.sharedAddress).error? = none ∧
        (Core.initial.load (Image.ofSRecords SRecord.sharedAddress)).registers.pc = 0x2000 ∧
          (Core.initial.load (Image.ofSRecords SRecord.sharedAddress)).memory.read 0xFFFF = 0x8A ∧
            (Core.initial.load (Image.ofSRecords SRecord.sharedAddress)).memory.read 0 = 0xD5 := by
  obtain ⟨hread, hcore, -⟩ := load_ofSRecords SRecord.describes_sharedAddress
  refine ⟨SRecord.describes_sharedAddress, hread, ?_, ?_, ?_⟩
  · rw [hcore]
    rfl
  · rw [hcore]
    simp [Core.memory, Memory.writeBlocks, Memory.writeBlock, Memory.read_write]
  · rw [hcore]
    simp [Core.memory, Memory.writeBlocks, Memory.writeBlock]

end M68HC11
