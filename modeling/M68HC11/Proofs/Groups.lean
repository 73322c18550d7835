import M68HC11.Command.Options
import Mathlib.Data.List.Perm.Basic

/-!
Arguments in groups.

Arguments come in groups that belong together: the path of the input, an option
without a value, an option with its value. A `Wording` says how the settings of a
command are put into such groups, without saying how they are read.

* `Wording.Written`: groups one after the other, and the arguments they are written
  as;
* `Wording.Arranged`: groups that make up an invocation, in whatever order;
  `Wording.Reordered`: those of an invocation in another order;
* `Wording.ReadsBack`: a command reads its arguments back;
* `Grammar.Follows.readsBack`: it does if its grammar goes by the wording option for
  option.
-/

namespace M68HC11

variable {ι α : Type}

/-! ### Groups -/

/-- Arguments that belong together. What an option with a value sets is an item. -/
inductive ArgumentGroup (ι : Type)
  /-- The path of the input. -/
  | input (path : String)
  /-- The option that asks for more messages. -/
  | verbose
  /-- An option with a value. -/
  | setting (item : ι)

namespace ArgumentGroup

/-- The path in a group. -/
def path? : ArgumentGroup ι → Option String
  | input path => some path
  | _ => none

/-- The item in a group. -/
def item? : ArgumentGroup ι → Option ι
  | setting item => some item
  | _ => none

/-- Whether more messages are asked for. -/
def isVerbose : ArgumentGroup ι → Bool
  | verbose => true
  | _ => false

/-- The paths in groups. -/
def paths (groups : List (ArgumentGroup ι)) : List String := groups.filterMap path?

/-- The items in groups. -/
def items (groups : List (ArgumentGroup ι)) : List ι := groups.filterMap item?

lemma any_isVerbose_iff (groups : List (ArgumentGroup ι)) :
    groups.any isVerbose = true ↔ .verbose ∈ groups := by
  rw [List.any_eq_true]
  constructor
  · rintro ⟨group, hmem, hverbose⟩
    cases group with
    | verbose => exact hmem
    | input path => cases hverbose
    | setting item => cases hverbose
  · exact fun hmem => ⟨_, hmem, rfl⟩

end ArgumentGroup

open ArgumentGroup

/-- An argument that looks like an option. -/
def Dashed (text : String) : Prop := text.toList.head? = some '-'

instance (text : String) : Decidable (Dashed text) :=
  inferInstanceAs (Decidable (text.toList.head? = some '-'))

/-! ### Wordings -/

/-- The options of every command that have no value. -/
def bareOptions : List String := ["--help", "-h", "--verbose", "-v"]

/-- How the settings of a command are put into words. -/
structure Wording (ι α : Type) where
  /-- How an item is written: as which option, and with which value. -/
  Writes : ι → String → String → Prop
  /-- What items, one after the other, say that settings are. -/
  Says : List ι → α → Prop
  /-- Whether an item counts instead of another one in front of it. -/
  Supersedes : ι → ι → Prop
  /-- The settings that are in the range of what can be written. -/
  Fits : α → Prop
  /-- Settings as items. -/
  itemsOf : α → List ι
  /-- The addresses in items of one kind that may be there several times. -/
  repeatable : List (ι → Option UInt16)
  /-- All options of the command. -/
  options : List String

namespace Wording

/-- Groups and the arguments that they are written as. -/
inductive Written (w : Wording ι α) : List (ArgumentGroup ι) → List String → Prop
  /-- No groups are written as no arguments. -/
  | nil : Written w [] []
  /-- A path is written as it is. -/
  | input {path : String} {groups : List (ArgumentGroup ι)} {arguments : List String}
      (hpath : ¬ Dashed path) (h : Written w groups arguments) :
      Written w (.input path :: groups) (path :: arguments)
  /-- The option without a value has two names. -/
  | verbose {flag : String} {groups : List (ArgumentGroup ι)} {arguments : List String}
      (hflag : flag ∈ ["--verbose", "-v"]) (h : Written w groups arguments) :
      Written w (.verbose :: groups) (flag :: arguments)
  /-- An option's value is the argument behind it. -/
  | setting {item : ι} {option value : String} {groups : List (ArgumentGroup ι)}
      {arguments : List String} (hitem : w.Writes item option value)
      (h : Written w groups arguments) :
      Written w (.setting item :: groups) (option :: value :: arguments)

/-- Groups that make up an invocation. -/
structure Arranged (w : Wording ι α) (groups : List (ArgumentGroup ι)) (r : Invocation α) :
    Prop where
  /-- The input is the only path. -/
  input : paths groups = [r.input]
  /-- More messages are asked for, or they are not. -/
  verbose : .verbose ∈ groups ↔ r.verbose = true
  /-- The items say what the settings are. -/
  settings : w.Says (items groups) r.settings

/-- An invocation as groups. -/
def groupsOf (w : Wording ι α) (r : Invocation α) : List (ArgumentGroup ι) :=
  .input r.input :: ((if r.verbose then [.verbose] else []) ++ (w.itemsOf r.settings).map .setting)

lemma paths_groupsOf (w : Wording ι α) (r : Invocation α) : paths (w.groupsOf r) = [r.input] := by
  have hflag : paths (if r.verbose then [@verbose ι] else []) = [] := by
    cases r.verbose <;> rfl
  have hsettings : paths ((w.itemsOf r.settings).map .setting) = [] := by
    rw [paths, List.filterMap_map]
    exact List.filterMap_none _
  calc paths (w.groupsOf r)
      = r.input :: (paths (if r.verbose then [.verbose] else []) ++
          paths ((w.itemsOf r.settings).map .setting)) :=
        congrArg (r.input :: ·) List.filterMap_append
    _ = [r.input] := by rw [hflag, hsettings, List.nil_append]

lemma items_groupsOf (w : Wording ι α) (r : Invocation α) :
    items (w.groupsOf r) = w.itemsOf r.settings := by
  have hflag : items (if r.verbose then [@verbose ι] else []) = [] := by
    cases r.verbose <;> rfl
  have hsettings : items ((w.itemsOf r.settings).map .setting) = w.itemsOf r.settings := by
    rw [items, List.filterMap_map]
    exact List.filterMap_some
  calc items (w.groupsOf r)
      = items (if r.verbose then [.verbose] else []) ++
          items ((w.itemsOf r.settings).map .setting) := List.filterMap_append
    _ = w.itemsOf r.settings := by rw [hflag, hsettings, List.nil_append]

lemma verbose_mem_groupsOf (w : Wording ι α) (r : Invocation α) :
    .verbose ∈ w.groupsOf r ↔ r.verbose = true := by
  simp [groupsOf]

/-- The groups of an invocation in another order. -/
structure Reordered (w : Wording ι α) (groups : List (ArgumentGroup ι)) (r : Invocation α) :
    Prop where
  /-- They are the same groups. -/
  perm : groups.Perm (w.groupsOf r)
  /-- Those of one kind stay in their order. -/
  kept : ∀ pick ∈ w.repeatable,
    (items groups).filterMap pick = (w.itemsOf r.settings).filterMap pick

/-- A command reads its arguments back. -/
structure ReadsBack (w : Wording ι α)
    (read : List String → Except UsageError (Invocation α)) : Prop where
  /-- Arguments are read as the invocation that their groups make up, and as nothing
  else. -/
  exact : ∀ groups arguments, w.Written groups arguments → ∀ r,
    read arguments = .ok r ↔ w.Arranged groups r
  /-- The groups of an invocation make it up in every order. -/
  everyOrder : ∀ r groups, w.Fits r.settings → w.Reordered groups r → w.Arranged groups r
  /-- A group changes nothing if another one behind it counts instead. -/
  superseded : ∀ front item back r, (∃ later ∈ items back, w.Supersedes later item) →
    (w.Arranged (front ++ .setting item :: back) r ↔ w.Arranged (front ++ back) r)
  /-- All groups can be written, if their paths do not look like options. -/
  writable : ∀ groups : List (ArgumentGroup ι), (∀ path ∈ paths groups, ¬ Dashed path) →
    ∃ arguments, w.Written groups arguments
  /-- A second path is refused, whatever comes behind it. -/
  twice : ∀ groups arguments, w.Written groups arguments → 1 < (paths groups).length →
    ∀ rest, read (arguments ++ rest) = .error .multipleInputs
  /-- So is an argument in the place of an option that looks like one and is none. -/
  unknown : ∀ groups arguments, w.Written groups arguments → (paths groups).length ≤ 1 →
    ∀ text rest, Dashed text → text ∉ w.options →
      read (arguments ++ text :: rest) = .error (.unknownOption text)

end Wording

/-! ### Grammars -/

variable {g : Grammar α} {w : Wording ι α} {put : α → ι → α} {standard : α}
  {d : Draft α} {groups : List (ArgumentGroup ι)} {arguments rest : List String}

/-- A grammar that goes by a wording. -/
structure Grammar.Follows (g : Grammar α) (w : Wording ι α) (put : α → ι → α)
    (standard : α) : Prop where
  /-- Options are accepted with their values, which are put into the settings. -/
  accepts : ∀ {item option value}, w.Writes item option value →
    ∃ o, g option = some o ∧ ∀ s, o.put s value = .ok (put s item)
  /-- Other options have no value. -/
  flag : ∀ text ∈ bareOptions, g text = none
  /-- There are no other options. -/
  unknown : ∀ text ∉ w.options, g text = none
  /-- Those without a value are among them. -/
  bare_subset : bareOptions ⊆ w.options
  /-- All options look like options. -/
  dashed : ∀ text ∈ w.options, Dashed text
  /-- Every item can be written. -/
  exists_writes : ∀ item, ∃ option value, w.Writes item option value
  /-- Items say what putting them into the settings comes to. -/
  says_iff : ∀ items s, w.Says items s ↔ items.foldl put standard = s
  /-- What counts instead of an item makes up for it. -/
  superseded : ∀ front item back, (∃ later ∈ back, w.Supersedes later item) →
    (front ++ item :: back).foldl put standard = (front ++ back).foldl put standard
  /-- The items of settings say what they are, in every order. -/
  says_of_perm : ∀ s items, w.Fits s → items.Perm (w.itemsOf s) →
    (∀ pick ∈ w.repeatable, items.filterMap pick = (w.itemsOf s).filterMap pick) →
    w.Says items s

namespace Draft

/-- What has been read once groups are read as well. -/
def extend (put : α → ι → α) (d : Draft α) (groups : List (ArgumentGroup ι)) : Draft α :=
  ⟨d.input?.or (paths groups).head?, d.verbose || groups.any isVerbose,
    (items groups).foldl put d.settings⟩

lemma putInput_of_dashed {text : String} (h : Dashed text) :
    d.putInput text = .error (.unknownOption text) := if_pos h

lemma putInput_first {path : String} (h : ¬ Dashed path) (hinput : d.input? = none) :
    d.putInput path = .ok { d with input? := some path } := by
  rw [putInput, hinput]
  exact if_neg h

lemma putInput_second {path first : String} (h : ¬ Dashed path) (hinput : d.input? = some first) :
    d.putInput path = .error .multipleInputs := by
  rw [putInput, hinput]
  exact if_neg h

/-- How an option is read that asks for more messages. -/
lemma read_verbose {flag : String} (hflag : flag ∈ ["--verbose", "-v"]) :
    read g d (flag :: rest) = read g { d with verbose := true } rest := by
  rw [read, if_neg, if_pos]
  · simpa using hflag
  · simp only [List.mem_cons, List.not_mem_nil, or_false] at hflag
    rcases hflag with rfl | rfl <;> decide

/-- How an option is read that has a value. -/
lemma read_setting {option value : String} {o : ValuedOption α} {s : α}
    (hoption : option ∉ bareOptions) (ho : g option = some o)
    (hput : o.put d.settings value = .ok s) :
    read g d (option :: value :: rest) = read g { d with settings := s } rest := by
  have hbare := hoption
  simp only [bareOptions, List.mem_cons, List.not_mem_nil, or_false, not_or] at hbare
  obtain ⟨hhelp, hh, hverbose, hv⟩ := hbare
  rw [read, if_neg (not_or.mpr ⟨hhelp, hh⟩), if_neg (not_or.mpr ⟨hverbose, hv⟩), ho]
  simp only [hput]

/-- How an argument is read that is no option. -/
lemma read_other {text : String} (hflag : text ∉ bareOptions) (hnone : g text = none) :
    read g d (text :: rest) = (d.putInput text).bind fun d => read g d rest := by
  simp only [bareOptions, List.mem_cons, List.not_mem_nil, or_false, not_or] at hflag
  obtain ⟨hhelp, hh, hverbose, hv⟩ := hflag
  rw [read, if_neg (not_or.mpr ⟨hhelp, hh⟩), if_neg (not_or.mpr ⟨hverbose, hv⟩), hnone]
  cases d.putInput text <;> rfl

lemma extend_nil (put : α → ι → α) (d : Draft α) : d.extend put [] = d := by
  cases d with
  | mk input? verbose settings => simp [extend, paths, items]

lemma extend_input {path : String} (h : d.input? = none) :
    ({ d with input? := some path } : Draft α).extend put groups =
      d.extend put (.input path :: groups) := by
  rw [extend, extend, h]
  rfl

lemma extend_verbose :
    ({ d with verbose := true } : Draft α).extend put groups =
      d.extend put (.verbose :: groups) := by
  rw [extend, extend, List.any_cons, isVerbose, Bool.true_or, Bool.or_true]
  rfl

end Draft

namespace Grammar.Follows

open Draft

lemma notMem_bareOptions (h : g.Follows w put standard) {text : String} (htext : ¬ Dashed text) :
    text ∉ bareOptions :=
  fun hmem => htext (h.dashed text (h.bare_subset hmem))

/-- Groups are read one after the other, unless there is a second path. -/
lemma read_written (h : g.Follows w put standard) (hwritten : w.Written groups arguments)
    (d : Draft α) (rest : List String) :
    read g d (arguments ++ rest) =
      if (d.input?.toList ++ paths groups).length ≤ 1 then read g (d.extend put groups) rest
      else .error .multipleInputs := by
  -- what was read of the groups in front stands in the draft, also whether there was a path
  induction hwritten generalizing d with
  | nil =>
      rw [extend_nil, if_pos]
      · rfl
      · cases d.input? <;> simp [paths]
  | @input path groups arguments hpath _ ih =>
      have hnone : g path = none := h.unknown path (mt (h.dashed path) hpath)
      rw [List.cons_append, read_other (h.notMem_bareOptions hpath) hnone]
      cases hinput : d.input? with
      | none =>
          have hread := ih { d with input? := some path }
          rw [extend_input hinput] at hread
          rw [putInput_first hpath hinput]
          exact hread
      | some first =>
          rw [putInput_second hpath hinput, if_neg]
          · rfl
          · simp [paths, path?]
  | @verbose flag groups arguments hflag _ ih =>
      rw [List.cons_append, read_verbose hflag, ih, extend_verbose]
      rfl
  | @setting item option value groups arguments hitem _ ih =>
      -- the value behind the option is read with it, whatever it looks like
      obtain ⟨o, ho, hput⟩ := h.accepts hitem
      have hoption : option ∉ bareOptions := by
        intro hmem
        rw [h.flag option hmem] at ho
        cases ho
      rw [List.cons_append, List.cons_append, read_setting hoption ho (hput d.settings), ih]
      rfl

/-- What a command reads groups as. -/
lemma readInvocation_written (h : g.Follows w put standard)
    (hwritten : w.Written groups arguments) :
    readInvocation g standard arguments =
      match paths groups with
      | [] => .error .missingInput
      | [path] => .ok ⟨path, groups.any isVerbose, (items groups).foldl put standard⟩
      | _ => .error .multipleInputs := by
  have hread := h.read_written hwritten ⟨none, false, standard⟩ []
  rw [List.append_nil, Option.toList_none, List.nil_append] at hread
  rw [readInvocation, hread, extend]
  cases paths groups with
  | nil => rfl
  | cons path others =>
      cases others with
      | nil => rfl
      | cons second others =>
          rw [if_neg (by simp)]

/-- An invocation is made up by groups with a single path, and it is the only one. -/
lemma arranged_iff (h : g.Follows w put standard) (r : Invocation α) :
    w.Arranged groups r ↔ paths groups = [r.input] ∧
      r = ⟨r.input, groups.any isVerbose, (items groups).foldl put standard⟩ := by
  cases r with
  | mk input verbose settings =>
      rw [Invocation.mk.injEq]
      constructor
      · intro ⟨hinput, hverbose, hsettings⟩
        refine ⟨hinput, rfl, ?_, ((h.says_iff _ _).mp hsettings).symm⟩
        rw [Bool.eq_iff_iff, any_isVerbose_iff]
        exact hverbose.symm
      · rintro ⟨hinput, -, hverbose, hsettings⟩
        refine ⟨hinput, ?_, (h.says_iff _ _).mpr hsettings.symm⟩
        rw [← any_isVerbose_iff, ← hverbose]

/-- Groups are read as the invocation that they make up. -/
lemma readInvocation_eq_ok_iff (h : g.Follows w put standard)
    (hwritten : w.Written groups arguments) (r : Invocation α) :
    readInvocation g standard arguments = .ok r ↔ w.Arranged groups r := by
  rw [h.readInvocation_written hwritten, h.arranged_iff]
  cases hpaths : paths groups with
  | nil => simp
  | cons path others =>
      cases others with
      | nil =>
          constructor
          · intro hread
            obtain rfl := Except.ok.inj hread
            exact ⟨rfl, rfl⟩
          · rintro ⟨hinput, hr⟩
            obtain rfl := (List.cons.inj hinput).1
            exact congrArg Except.ok hr.symm
      | cons second others => simp

/-- The groups of an invocation make it up in every order. -/
lemma arranged_of_reordered (h : g.Follows w put standard) {r : Invocation α}
    (hfits : w.Fits r.settings) (hgroups : w.Reordered groups r) : w.Arranged groups r := by
  have hpaths : (paths groups).Perm (paths (w.groupsOf r)) := hgroups.perm.filterMap path?
  have hitems : (items groups).Perm (items (w.groupsOf r)) := hgroups.perm.filterMap item?
  rw [w.paths_groupsOf] at hpaths
  rw [w.items_groupsOf] at hitems
  exact ⟨List.perm_singleton.mp hpaths, hgroups.perm.mem_iff.trans (w.verbose_mem_groupsOf r),
    h.says_of_perm _ _ hfits hitems hgroups.kept⟩

/-- A group changes nothing if another one behind it counts instead. -/
lemma arranged_superseded (h : g.Follows w put standard) {front back : List (ArgumentGroup ι)}
    {item : ι} (hlater : ∃ later ∈ items back, w.Supersedes later item) (r : Invocation α) :
    w.Arranged (front ++ .setting item :: back) r ↔ w.Arranged (front ++ back) r := by
  have hpaths : paths (front ++ .setting item :: back) = paths (front ++ back) := by
    rw [paths, paths, List.filterMap_append, List.filterMap_append]
    rfl
  have hverbose : (front ++ .setting item :: back).any isVerbose =
      (front ++ back).any isVerbose := by
    rw [List.any_append, List.any_append]
    rfl
  have hfront : items (front ++ .setting item :: back) = items front ++ item :: items back :=
    List.filterMap_append
  have hback : items (front ++ back) = items front ++ items back := List.filterMap_append
  rw [h.arranged_iff, h.arranged_iff, hpaths, hverbose, hfront, hback,
    h.superseded (items front) item (items back) hlater]

/-- Groups can be written if their paths do not look like options. -/
lemma exists_written (h : g.Follows w put standard)
    (hgroups : ∀ path ∈ paths groups, ¬ Dashed path) :
    ∃ arguments, w.Written groups arguments := by
  induction groups with
  | nil => exact ⟨[], .nil⟩
  | cons group groups ih =>
      cases group with
      | input path =>
          obtain ⟨hpath, hrest⟩ := List.forall_mem_cons.mp hgroups
          obtain ⟨arguments, hwritten⟩ := ih hrest
          exact ⟨_, hwritten.input hpath⟩
      | verbose =>
          obtain ⟨arguments, hwritten⟩ := ih hgroups
          exact ⟨_, hwritten.verbose List.mem_cons_self⟩
      | setting item =>
          obtain ⟨arguments, hwritten⟩ := ih hgroups
          obtain ⟨option, value, hitem⟩ := h.exists_writes item
          exact ⟨_, hwritten.setting hitem⟩

/-- A grammar that goes by a wording reads it back. -/
theorem readsBack (h : g.Follows w put standard) : w.ReadsBack (readInvocation g standard) where
  exact _ _ hwritten r := h.readInvocation_eq_ok_iff hwritten r
  everyOrder _ _ hfits hgroups := h.arranged_of_reordered hfits hgroups
  superseded _ _ _ r hlater := h.arranged_superseded hlater r
  writable _ hgroups := h.exists_written hgroups
  twice groups arguments hwritten htwice rest := by
    have hread := h.read_written hwritten ⟨none, false, standard⟩ rest
    rw [Option.toList_none, List.nil_append, if_neg (Nat.not_le.mpr htwice)] at hread
    rw [readInvocation, hread]
  unknown groups arguments hwritten honce text rest htext hunknown := by
    have hread := h.read_written hwritten ⟨none, false, standard⟩ (text :: rest)
    have hflag : text ∉ bareOptions := fun hmem => hunknown (h.bare_subset hmem)
    rw [Option.toList_none, List.nil_append, if_pos honce,
      read_other hflag (h.unknown text hunknown), putInput_of_dashed htext] at hread
    rw [readInvocation, hread]
    rfl

end Grammar.Follows

end M68HC11
