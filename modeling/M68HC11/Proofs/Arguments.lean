import M68HC11.Proofs.Groups
import M68HC11.Proofs.Items

/-!
The arguments of the commands that run and that list an image.

* `RunItem.wording`, `DisassembleItem.wording`: how the settings of the two commands
  are put into words. The last option of a kind counts, and breakpoints are collected
  in their order (`RunItem.Says`, `DisassembleItem.Says`);
* `RunItem.follows`, `DisassembleItem.follows`: the grammars of the commands go by
  these wordings;
* `arguments_readBack` (**arguments are read back**): what is worded so is read as it
  was meant, in whatever order.
-/

namespace M68HC11

open Text

variable {κ : Type}

/-! ### Running an image -/

/-- A number of cycles is read as it is written. -/
lemma readCycles_of_spells {n : UInt64} {text : String}
    (h : Numeral.Spells 10 n.toNat text.toList) : readCycles text = .ok n := by
  have hread := Numeral.read?_of_spells (by decide) h n.toNat_lt
  simp only [readCycles, hread, UInt64.ofNat_toNat]

/-- What an option of the command that runs an image sets. -/
inductive RunItem
  | image (item : ImageItem)
  | cycles (n : UInt64)
  | breakAt (a : UInt16)
  | readBreak (a : UInt16)
  | writeBreak (a : UInt16)

namespace RunItem

/-- How an item is written. -/
def Writes : RunItem → String → String → Prop
  | image item, option, value => item.Writes option value
  | cycles n, option, value => option = "--cycles" ∧ Numeral.Spells 10 n.toNat value.toList
  | breakAt a, option, value => option = "--break" ∧ Address.Written a value
  | readBreak a, option, value => option = "--read-break" ∧ Address.Written a value
  | writeBreak a, option, value => option = "--write-break" ∧ Address.Written a value

def image? : RunItem → Option ImageItem
  | image item => some item
  | _ => none

def cycles? : RunItem → Option UInt64
  | cycles n => some n
  | _ => none

def breakAt? : RunItem → Option UInt16
  | breakAt a => some a
  | _ => none

def readBreak? : RunItem → Option UInt16
  | readBreak a => some a
  | _ => none

def writeBreak? : RunItem → Option UInt16
  | writeBreak a => some a
  | _ => none

/-- The settings with an item put in. -/
def put (s : RunSettings) : RunItem → RunSettings
  | image item => { s with image := ImageItem.put s.image item }
  | cycles n => { s with cycles := n }
  | breakAt a => { s with breaks := s.breaks ++ [a] }
  | readBreak a => { s with readBreaks := s.readBreaks ++ [a] }
  | writeBreak a => { s with writeBreaks := s.writeBreaks ++ [a] }

/-- The last number of cycles counts, and the breakpoints of each kind are kept in their
order. -/
structure Says (items : List RunItem) (s : RunSettings) : Prop where
  image : ImageItem.Says (items.filterMap image?) s.image
  cycles : (last? cycles? items).getD RunSettings.standard.cycles = s.cycles
  breaks : items.filterMap breakAt? = s.breaks
  readBreaks : items.filterMap readBreak? = s.readBreaks
  writeBreaks : items.filterMap writeBreak? = s.writeBreaks

/-- An option counts instead of the same one in front of it, but breakpoints do not. -/
def Supersedes : RunItem → RunItem → Prop
  | image later, image item => later.Supersedes item
  | cycles _, cycles _ => True
  | _, _ => False

/-- Settings as items. -/
def ofSettings (s : RunSettings) : List RunItem :=
  (ImageItem.ofSettings s.image).map image ++ [cycles s.cycles] ++ s.breaks.map breakAt ++
    s.readBreaks.map readBreak ++ s.writeBreaks.map writeBreak

variable {items front back : List RunItem} {item : RunItem} {s : RunSettings}

/-- What items make of the settings of a run. -/
lemma foldl_put (items : List RunItem) :
    items.foldl put .standard =
      ⟨(items.filterMap image?).foldl ImageItem.put .standard,
        (last? cycles? items).getD RunSettings.standard.cycles, items.filterMap breakAt?,
        items.filterMap readBreak?, items.filterMap writeBreak?⟩ := by
  have himage := foldl_filterMap put RunSettings.image image? ImageItem.put
    (fun s item => by cases item <;> rfl) .standard items
  have hcycles := foldl_overwrite put RunSettings.cycles cycles? id
    (fun s item => by cases item <;> rfl) .standard items
  have hbreaks := foldl_collect put RunSettings.breaks breakAt?
    (fun s item => by cases item <;> rfl) .standard items
  have hreadBreaks := foldl_collect put RunSettings.readBreaks readBreak?
    (fun s item => by cases item <;> rfl) .standard items
  have hwriteBreaks := foldl_collect put RunSettings.writeBreaks writeBreak?
    (fun s item => by cases item <;> rfl) .standard items
  calc items.foldl put .standard
      = ⟨(items.foldl put .standard).image, (items.foldl put .standard).cycles,
          (items.foldl put .standard).breaks, (items.foldl put .standard).readBreaks,
          (items.foldl put .standard).writeBreaks⟩ := rfl
    _ = _ := by
      rw [himage, hcycles, hbreaks, hreadBreaks, hwriteBreaks]
      cases last? cycles? items <;> rfl

/-- Items say what putting them into the settings comes to. -/
lemma says_iff : Says items s ↔ items.foldl put .standard = s := by
  rw [foldl_put]
  cases s with
  | mk image cycles breaks readBreaks writeBreaks =>
      rw [RunSettings.mk.injEq, ← ImageItem.says_iff]
      exact ⟨fun h => ⟨h.image, h.cycles, h.breaks, h.readBreaks, h.writeBreaks⟩,
        fun ⟨himage, hcycles, hbreaks, hreadBreaks, hwriteBreaks⟩ =>
          ⟨himage, hcycles, hbreaks, hreadBreaks, hwriteBreaks⟩⟩

/-- What counts instead of an item makes up for it. -/
lemma foldl_superseded (h : ∃ later ∈ back, Supersedes later item) :
    (front ++ item :: back).foldl put .standard = (front ++ back).foldl put .standard := by
  obtain ⟨later, hmem, hlater⟩ := h
  rw [foldl_put, foldl_put]
  cases item with
  | image item =>
      cases later with
      | image later =>
          have himage := ImageItem.foldl_filterMap_superseded (rfl : image? (image item) = _)
            ⟨later, List.mem_filterMap.mpr ⟨_, hmem, rfl⟩, hlater⟩ front
          rw [himage, last?_superseded (.inl rfl),
            filterMap_skip (rfl : breakAt? (image item) = none),
            filterMap_skip (rfl : readBreak? (image item) = none),
            filterMap_skip (rfl : writeBreak? (image item) = none)]
      | _ => exact hlater.elim
  | cycles n =>
      cases later with
      | cycles n' =>
          rw [last?_superseded (.inr ⟨_, hmem, rfl⟩), filterMap_skip rfl, filterMap_skip rfl,
            filterMap_skip rfl, filterMap_skip rfl]
      | _ => exact hlater.elim
  | breakAt a => cases later <;> exact hlater.elim
  | readBreak a => cases later <;> exact hlater.elim
  | writeBreak a => cases later <;> exact hlater.elim

/-- The items of settings, kind by kind. -/
lemma filterMap_ofSettings (pick : RunItem → Option κ) (s : RunSettings) :
    (ofSettings s).filterMap pick =
      (ImageItem.ofSettings s.image).filterMap (pick ∘ image) ++ (pick (cycles s.cycles)).toList ++
        s.breaks.filterMap (pick ∘ breakAt) ++ s.readBreaks.filterMap (pick ∘ readBreak) ++
        s.writeBreaks.filterMap (pick ∘ writeBreak) := by
  cases hcycles : pick (cycles s.cycles) <;> simp [ofSettings, hcycles]

/-- The items of settings say what they are, in every order. -/
lemma says_of_perm (h : items.Perm (ofSettings s))
    (hkept : ∀ pick ∈ [breakAt?, readBreak?, writeBreak?],
      items.filterMap pick = (ofSettings s).filterMap pick) : Says items s where
  image := by
    have himage := h.filterMap image?
    rw [filterMap_ofSettings] at himage
    exact ImageItem.says_of_perm (by simpa [Function.comp_def, image?] using himage)
  cycles := by
    have hcycles : last? cycles? items = some s.cycles :=
      last?_of_perm h (by simp [filterMap_ofSettings, Function.comp_def, cycles?])
    rw [hcycles, Option.getD_some]
  breaks := by
    rw [hkept breakAt? (by simp), filterMap_ofSettings]
    simp [Function.comp_def, breakAt?]
  readBreaks := by
    rw [hkept readBreak? (by simp), filterMap_ofSettings]
    simp [Function.comp_def, readBreak?]
  writeBreaks := by
    rw [hkept writeBreak? (by simp), filterMap_ofSettings]
    simp [Function.comp_def, writeBreak?]

/-- Every item can be written. -/
lemma exists_writes (item : RunItem) : ∃ option value, item.Writes option value := by
  cases item with
  | image item => exact item.exists_writes
  | cycles n =>
      obtain ⟨value, hvalue⟩ := Numeral.exists_spells (Nat.one_lt_ofNat : 1 < 10) n.toNat
      exact ⟨"--cycles", value, rfl, hvalue⟩
  | breakAt a =>
      obtain ⟨value, hvalue⟩ := Address.exists_written a
      exact ⟨"--break", value, rfl, hvalue⟩
  | readBreak a =>
      obtain ⟨value, hvalue⟩ := Address.exists_written a
      exact ⟨"--read-break", value, rfl, hvalue⟩
  | writeBreak a =>
      obtain ⟨value, hvalue⟩ := Address.exists_written a
      exact ⟨"--write-break", value, rfl, hvalue⟩

/-- Options are accepted as they are written. -/
lemma accepts {option value : String} (h : item.Writes option value) :
    ∃ o, runGrammar option = some o ∧ ∀ s, o.put s value = .ok (put s item) := by
  cases item with
  | image item =>
      obtain ⟨o, ho, hput⟩ := ImageItem.accepts h
      exact ⟨_, by rw [runGrammar, ho], fun s => congrArg (Except.map _) (hput s.image)⟩
  | cycles n =>
      obtain ⟨rfl, hvalue⟩ := h
      exact ⟨_, rfl, fun s => congrArg (Except.map _) (readCycles_of_spells hvalue)⟩
  | breakAt a =>
      obtain ⟨rfl, hvalue⟩ := h
      have hread := Address.readAddress_of_written hvalue
      exact ⟨_, rfl, fun s => congrArg (Except.map _) hread⟩
  | readBreak a =>
      obtain ⟨rfl, hvalue⟩ := h
      have hread := Address.readAddress_of_written hvalue
      exact ⟨_, rfl, fun s => congrArg (Except.map _) hread⟩
  | writeBreak a =>
      obtain ⟨rfl, hvalue⟩ := h
      have hread := Address.readAddress_of_written hvalue
      exact ⟨_, rfl, fun s => congrArg (Except.map _) hread⟩

/-- The wording of the command that runs an image. -/
def wording : Wording RunItem RunSettings where
  Writes := Writes
  Says := Says
  Supersedes := Supersedes
  Fits _ := True
  itemsOf := ofSettings
  repeatable := [breakAt?, readBreak?, writeBreak?]
  options := bareOptions ++ ["--format", "-f", "--org", "--cycles", "--break", "--read-break",
    "--write-break"]

/-- The grammar of the command goes by it. -/
lemma follows : runGrammar.Follows wording put .standard where
  accepts h := accepts h
  flag := by decide
  unknown text htext := by
    simp only [wording, bareOptions, List.mem_append, List.mem_cons, List.not_mem_nil, or_false,
      not_or] at htext
    simp [runGrammar, imageGrammar, htext]
  bare_subset := List.subset_append_left _ _
  dashed := by decide
  exists_writes := exists_writes
  says_iff _ _ := says_iff
  superseded _ _ _ h := foldl_superseded h
  says_of_perm _ _ _ h hkept := says_of_perm h hkept

end RunItem

/-! ### Listing an image -/

/-- A number of instructions is read as it is written. -/
lemma readCount_of_spells {n : UInt64} {text : String}
    (h : Numeral.Spells 10 n.toNat text.toList) : readCount text = .ok n.toNat := by
  have hread := Numeral.read?_of_spells (by decide) h n.toNat_lt
  simp only [readCount, hread]

/-- What an option of the command that lists an image sets. -/
inductive DisassembleItem
  | image (item : ImageItem)
  | start (a : UInt16)
  | count (n : UInt64)

namespace DisassembleItem

/-- How an item is written. -/
def Writes : DisassembleItem → String → String → Prop
  | image item, option, value => item.Writes option value
  | start a, option, value => option = "--start" ∧ Address.Written a value
  | count n, option, value => option = "--count" ∧ Numeral.Spells 10 n.toNat value.toList

def image? : DisassembleItem → Option ImageItem
  | image item => some item
  | _ => none

def start? : DisassembleItem → Option UInt16
  | start a => some a
  | _ => none

def count? : DisassembleItem → Option UInt64
  | count n => some n
  | _ => none

/-- The settings with an item put in. -/
def put (s : DisassembleSettings) : DisassembleItem → DisassembleSettings
  | image item => { s with image := ImageItem.put s.image item }
  | start a => { s with start? := some a }
  | count n => { s with count := n.toNat }

/-- Of each option the last one counts. -/
structure Says (items : List DisassembleItem) (s : DisassembleSettings) : Prop where
  image : ImageItem.Says (items.filterMap image?) s.image
  start : last? start? items = s.start?
  count : (last? count? items).elim DisassembleSettings.standard.count UInt64.toNat = s.count

/-- An option counts instead of the same one in front of it. -/
def Supersedes : DisassembleItem → DisassembleItem → Prop
  | image later, image item => later.Supersedes item
  | start _, start _ | count _, count _ => True
  | _, _ => False

/-- Settings as items. -/
def ofSettings (s : DisassembleSettings) : List DisassembleItem :=
  (ImageItem.ofSettings s.image).map image ++ s.start?.toList.map start ++ [count (.ofNat s.count)]

variable {items front back : List DisassembleItem} {item : DisassembleItem}
  {s : DisassembleSettings}

/-- What items make of the settings of a listing. -/
lemma foldl_put (items : List DisassembleItem) :
    items.foldl put .standard =
      ⟨(items.filterMap image?).foldl ImageItem.put .standard, last? start? items,
        (last? count? items).elim DisassembleSettings.standard.count UInt64.toNat⟩ := by
  have himage := foldl_filterMap put DisassembleSettings.image image? ImageItem.put
    (fun s item => by cases item <;> rfl) .standard items
  have hstart := foldl_overwrite put DisassembleSettings.start? start? some
    (fun s item => by cases item <;> rfl) .standard items
  have hcount := foldl_overwrite put DisassembleSettings.count count? UInt64.toNat
    (fun s item => by cases item <;> rfl) .standard items
  calc items.foldl put .standard
      = ⟨(items.foldl put .standard).image, (items.foldl put .standard).start?,
          (items.foldl put .standard).count⟩ := rfl
    _ = _ := by
      rw [himage, hstart, hcount]
      cases last? start? items <;> rfl

/-- Items say what putting them into the settings comes to. -/
lemma says_iff : Says items s ↔ items.foldl put .standard = s := by
  rw [foldl_put]
  cases s with
  | mk image start? count =>
      rw [DisassembleSettings.mk.injEq, ← ImageItem.says_iff]
      exact ⟨fun h => ⟨h.image, h.start, h.count⟩,
        fun ⟨himage, hstart, hcount⟩ => ⟨himage, hstart, hcount⟩⟩

/-- What counts instead of an item makes up for it. -/
lemma foldl_superseded (h : ∃ later ∈ back, Supersedes later item) :
    (front ++ item :: back).foldl put .standard = (front ++ back).foldl put .standard := by
  obtain ⟨later, hmem, hlater⟩ := h
  rw [foldl_put, foldl_put]
  cases item with
  | image item =>
      cases later with
      | image later =>
          have himage := ImageItem.foldl_filterMap_superseded (rfl : image? (image item) = _)
            ⟨later, List.mem_filterMap.mpr ⟨_, hmem, rfl⟩, hlater⟩ front
          rw [himage, last?_superseded (.inl rfl), last?_superseded (.inl rfl)]
      | _ => exact hlater.elim
  | start a =>
      cases later with
      | start a' =>
          rw [filterMap_skip (rfl : image? (start a) = none),
            last?_superseded (.inr ⟨_, hmem, rfl⟩), last?_superseded (.inl rfl)]
      | _ => exact hlater.elim
  | count n =>
      cases later with
      | count n' =>
          rw [filterMap_skip (rfl : image? (count n) = none), last?_superseded (.inl rfl),
            last?_superseded (.inr ⟨_, hmem, rfl⟩)]
      | _ => exact hlater.elim

/-- The items of settings, kind by kind. -/
lemma filterMap_ofSettings (pick : DisassembleItem → Option κ) (s : DisassembleSettings) :
    (ofSettings s).filterMap pick =
      (ImageItem.ofSettings s.image).filterMap (pick ∘ image) ++
        s.start?.toList.filterMap (pick ∘ start) ++ (pick (count (.ofNat s.count))).toList := by
  cases hcount : pick (count (.ofNat s.count)) <;> simp [ofSettings, hcount]

/-- The items of settings say what they are, in every order. -/
lemma says_of_perm (hcount : s.count < UInt64.size) (h : items.Perm (ofSettings s)) :
    Says items s where
  image := by
    have himage := h.filterMap image?
    rw [filterMap_ofSettings] at himage
    exact ImageItem.says_of_perm (by simpa [Function.comp_def, image?] using himage)
  start := last?_of_perm h (by simp [filterMap_ofSettings, Function.comp_def, start?])
  count := by
    have hlast : last? count? items = some (.ofNat s.count) :=
      last?_of_perm h (by simp [filterMap_ofSettings, Function.comp_def, count?])
    rw [hlast, Option.elim_some, UInt64.toNat_ofNat_of_lt' hcount]

/-- Every item can be written. -/
lemma exists_writes (item : DisassembleItem) : ∃ option value, item.Writes option value := by
  cases item with
  | image item => exact item.exists_writes
  | start a =>
      obtain ⟨value, hvalue⟩ := Address.exists_written a
      exact ⟨"--start", value, rfl, hvalue⟩
  | count n =>
      obtain ⟨value, hvalue⟩ := Numeral.exists_spells (Nat.one_lt_ofNat : 1 < 10) n.toNat
      exact ⟨"--count", value, rfl, hvalue⟩

/-- Options are accepted as they are written. -/
lemma accepts {option value : String} (h : item.Writes option value) :
    ∃ o, disassembleGrammar option = some o ∧ ∀ s, o.put s value = .ok (put s item) := by
  cases item with
  | image item =>
      obtain ⟨o, ho, hput⟩ := ImageItem.accepts h
      exact ⟨_, by rw [disassembleGrammar, ho], fun s => congrArg (Except.map _) (hput s.image)⟩
  | start a =>
      obtain ⟨rfl, hvalue⟩ := h
      have hread := Address.readAddress_of_written hvalue
      exact ⟨_, rfl, fun s => congrArg (Except.map _) hread⟩
  | count n =>
      obtain ⟨rfl, hvalue⟩ := h
      exact ⟨_, rfl, fun s => congrArg (Except.map _) (readCount_of_spells hvalue)⟩

/-- The wording of the command that lists an image. -/
def wording : Wording DisassembleItem DisassembleSettings where
  Writes := Writes
  Says := Says
  Supersedes := Supersedes
  Fits s := s.count < UInt64.size
  itemsOf := ofSettings
  repeatable := []
  options := bareOptions ++ ["--format", "-f", "--org", "--start", "--count"]

/-- The grammar of the command goes by it. -/
lemma follows : disassembleGrammar.Follows wording put .standard where
  accepts h := accepts h
  flag := by decide
  unknown text htext := by
    simp only [wording, bareOptions, List.mem_append, List.mem_cons, List.not_mem_nil, or_false,
      not_or] at htext
    simp [disassembleGrammar, imageGrammar, htext]
  bare_subset := List.subset_append_left _ _
  dashed := by decide
  exists_writes := exists_writes
  says_iff _ _ := says_iff
  superseded _ _ _ h := foldl_superseded h
  says_of_perm _ _ hfits h _ := says_of_perm hfits h

end DisassembleItem

/-! ### Both commands -/

/-- **Arguments are read back.** Write the arguments of a run or of a listing in groups:
the path of the input, which does not look like an option; the format by one of its
names; addresses in decimal digits or in hexadecimal ones behind a mark; numbers in
decimal digits; the option for more messages by either of its names. What is read is
exactly the invocation that the groups make up (`Wording.Arranged`). The groups of an
invocation do so in every order that keeps the breakpoints of each kind in theirs, and
a group in front of another one that counts instead changes nothing. A second path is
refused, and so is an argument in the place of an option that looks like one and is
none. -/
theorem arguments_readBack :
    RunItem.wording.ReadsBack readRun ∧ DisassembleItem.wording.ReadsBack readDisassemble :=
  ⟨RunItem.follows.readsBack, DisassembleItem.follows.readsBack⟩

/-- Options around the path, with addresses of each kind. -/
example : (readRun ["--break", "$1000", "--org", "7", "prog.s19", "--break", "4098", "--org",
      "0x00fF", "-v", "--write-break", "0X40", "--cycles", "050"]).toOption =
    some ⟨"prog.s19", true, ⟨⟨none, 0xFF⟩, 50, [0x1000, 0x1002], [], [0x40]⟩⟩ := by
  decide +kernel

end M68HC11
