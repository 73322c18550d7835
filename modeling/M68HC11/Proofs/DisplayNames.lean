import M68HC11.Displays
import M68HC11.Proofs.LetterCase
import Mathlib.Data.List.Count
import Mathlib.Data.List.Induction

/-!
The names of displays.

* `Displays.Distinct`: no two displays have names of the same spelling. Every call
  keeps it (`Displays.Distinct.perform`), and it is why a display that is removed is
  the only one that goes by the name (`Displays.Distinct.find?_remove`);
* `Displays.standing`: the displays that were registered and have not been removed
  since, in the order in which they were registered. These are the ones that are
  listed (`Displays.names_performAll`);
* `Displays.unique_and_ordered` (**displays are unique and in order**): what holds
  after every sequence of calls, and what a further call does.
-/

namespace M68HC11.Displays

open Text

variable {d : Displays} {name other : String} {front back : List String}

/-! ### Calls -/

/-- A call about displays. -/
inductive Call
  /-- To register a display. -/
  | add (name : String)
  /-- To remove the display of that name. -/
  | remove (name : String)
  deriving DecidableEq

/-- What a caller is told. -/
inductive Outcome
  /-- The display is registered. -/
  | registered (name : String)
  /-- It is not, because its name is taken. -/
  | taken
  /-- The display, which was registered under the name, is removed. -/
  | removed (name : String)
  /-- There is no display of that name. -/
  | unknown
  deriving DecidableEq

/-- The displays after a call. -/
def perform (d : Displays) : Call → Displays
  | .add name => d.add name
  | .remove name => d.remove name

/-- What the caller is told. -/
def outcome (d : Displays) : Call → Outcome
  | .add name => if d.contains name then .taken else .registered name
  | .remove name => (d.find? name).elim .unknown .removed

/-- The displays after calls, of which there were none at first. -/
def performAll (calls : List Call) : Displays := calls.foldl perform ∅

/-- What the callers are told, one after the other. -/
def outcomes (d : Displays) : List Call → List Outcome
  | [] => []
  | call :: calls => d.outcome call :: (d.perform call).outcomes calls

lemma performAll_append_singleton (calls : List Call) (call : Call) :
    performAll (calls ++ [call]) = (performAll calls).perform call := by
  simp [performAll]

lemma outcomes_append_singleton (d : Displays) (calls : List Call) (call : Call) :
    d.outcomes (calls ++ [call]) = d.outcomes calls ++ [(calls.foldl perform d).outcome call] := by
  induction calls generalizing d with
  | nil => rfl
  | cons first calls ih =>
      rw [List.cons_append, outcomes, ih]
      rfl

/-! ### Distinct names -/

/-- No two displays have names of the same spelling. -/
def Distinct (d : Displays) : Prop := d.names.Pairwise (¬ SameSpelling · ·)

/-- A name is taken if one of the same spelling is registered. -/
lemma contains_iff : d.contains name = true ↔ ∃ other ∈ d.names, SameSpelling other name := by
  simp only [contains, List.any_eq_true, sameName_iff]

lemma contains_eq_false_iff :
    d.contains name = false ↔ ∀ other ∈ d.names, ¬ SameSpelling other name := by
  rw [← Bool.not_eq_true, contains_iff]
  exact not_exists.trans (forall_congr' fun _ => not_and)

/-- A name that is not taken is put at the end. -/
lemma names_add (h : d.contains name = false) : (d.add name).names = d.names ++ [name] := by
  rw [add, h]
  rfl

lemma add_eq_self (h : d.contains name = true) : d.add name = d := by
  rw [add, h]
  rfl

/-- Where a name is not taken there is nothing to remove. -/
lemma remove_eq_self (h : d.contains name = false) : d.find? name = none ∧ d.remove name = d := by
  have hnone : ∀ other ∈ d.names, ¬ sameName other name = true := by
    simpa only [sameName_iff] using contains_eq_false_iff.mp h
  refine ⟨List.find?_eq_none.mpr hnone, ?_⟩
  rw [remove, List.eraseP_of_forall_not hnone]

/-- Among displays of distinct names, the one that goes by a name is not the same as
any before or behind it. -/
lemma Distinct.others (h : d.Distinct) (hnames : d.names = front ++ other :: back)
    (hother : SameSpelling other name) : ∀ n ∈ front ++ back, ¬ SameSpelling n name := by
  intro n hn hsame
  have hboth : SameSpelling n other ∧ SameSpelling other n := by
    simp only [← sameName_iff] at hsame hother ⊢
    rw [sameName_comm] at hother
    have := sameName_trans hsame hother
    exact ⟨this, sameName_comm n other ▸ this⟩
  rw [Distinct, hnames, List.pairwise_append] at h
  obtain ⟨-, hback, hfront⟩ := h
  rcases List.mem_append.mp hn with hmem | hmem
  · exact hfront n hmem other List.mem_cons_self hboth.1
  · exact List.rel_of_pairwise_cons hback hmem hboth.2

/-- The display that goes by a name is found, and the others remain. -/
lemma Distinct.find?_remove (h : d.Distinct) (hnames : d.names = front ++ other :: back)
    (hother : SameSpelling other name) :
    d.find? name = some other ∧ (d.remove name).names = front ++ back := by
  have hfront : ∀ n ∈ front, ¬ sameName n name = true := fun n hn =>
    mt (sameName_iff n name).mp (h.others hnames hother n (List.mem_append_left back hn))
  have hsame := (sameName_iff other name).mpr hother
  constructor
  · rw [find?, hnames, List.find?_append, List.find?_eq_none.mpr hfront, Option.none_or]
    exact List.find?_cons_of_pos hsame
  · change d.names.eraseP _ = _
    rw [hnames, List.eraseP_append_right _ hfront]
    exact congrArg (front ++ ·) (List.eraseP_cons_of_pos hsame)

/-- A call about a name that is taken is about one display. -/
lemma exists_of_contains (h : d.contains name = true) :
    ∃ front other back, d.names = front ++ other :: back ∧ SameSpelling other name := by
  obtain ⟨other, hmem, hother⟩ := contains_iff.mp h
  obtain ⟨front, back, hnames⟩ := List.append_of_mem hmem
  exact ⟨front, other, back, hnames, hother⟩

/-- Once it is removed the name is free. -/
lemma Distinct.contains_remove (h : d.Distinct) (name : String) :
    (d.remove name).contains name = false := by
  cases hcontains : d.contains name with
  | false =>
      rw [(remove_eq_self hcontains).2]
      exact hcontains
  | true =>
      obtain ⟨front, other, back, hnames, hother⟩ := exists_of_contains hcontains
      rw [contains_eq_false_iff, (h.find?_remove hnames hother).2]
      exact h.others hnames hother

/-- Calls keep names distinct. -/
lemma Distinct.perform (h : d.Distinct) (call : Call) : (d.perform call).Distinct := by
  cases call with
  | add name =>
      rw [Displays.perform]
      cases hcontains : d.contains name with
      | true => rwa [add_eq_self hcontains]
      | false =>
          rw [Distinct, names_add hcontains, List.pairwise_append]
          refine ⟨h, List.pairwise_singleton _ _, ?_⟩
          intro other hmem last hlast
          rw [List.mem_singleton.mp hlast]
          exact contains_eq_false_iff.mp hcontains other hmem
  | remove name => exact List.Pairwise.sublist List.eraseP_sublist h

lemma distinct_performAll (calls : List Call) : (performAll calls).Distinct := by
  induction calls using List.reverseRecOn with
  | nil => exact List.Pairwise.nil
  | append_singleton calls call ih =>
      rw [performAll_append_singleton]
      exact ih.perform call

/-! ### The order of displays -/

/-- The displays that were registered and have not been removed since, in the order in
which they were registered. -/
def standing : List Outcome → List String
  | [] => []
  | .registered name :: rest =>
    if .removed name ∈ rest then standing rest else name :: standing rest
  | _ :: rest => standing rest

/-- What comes later takes some of those that stood away, and adds others behind
them. -/
lemma standing_append (told rest : List Outcome) :
    standing (told ++ rest) =
      (standing told).filter (fun name => .removed name ∉ rest) ++ standing rest := by
  fun_induction standing told with
  | case1 => rfl
  | case2 first told hremoved ih =>
      rw [List.cons_append, standing, if_pos (List.mem_append_left rest hremoved), ih]
  | case3 first told hremoved ih =>
      rw [List.cons_append, standing, ih, List.filter_cons]
      by_cases hlater : .removed first ∈ rest
      · rw [if_pos (List.mem_append_right told hlater), if_neg (by simpa using hlater)]
      · rw [if_neg (by simp [hremoved, hlater]), if_pos (by simpa using hlater)]
        rfl
  | case4 first told hother ih =>
      rw [List.cons_append, standing, ih]
      exact hother

/-- A display that is removed is taken from among the others. -/
lemma Distinct.filter_ne (h : d.Distinct) (hnames : d.names = front ++ other :: back) :
    d.names.filter (· ≠ other) = front ++ back := by
  have hself : SameSpelling other other := (sameName_iff other other).mp (sameName_refl other)
  have hne : ∀ n ∈ front ++ back, decide (n ≠ other) = true := by
    intro n hn
    refine decide_eq_true fun heq => ?_
    subst heq
    exact h.others hnames hself n hn hself
  rw [List.forall_mem_append] at hne
  rw [hnames, List.filter_append, List.filter_cons_of_neg (by simp),
    List.filter_eq_self.mpr hne.1, List.filter_eq_self.mpr hne.2]

/-- A call takes away the display that it removes and puts the one that it registers
at the end. -/
lemma Distinct.names_perform (h : d.Distinct) (call : Call) :
    (d.perform call).names =
      d.names.filter (fun name => .removed name ∉ [d.outcome call]) ++
        standing [d.outcome call] := by
  cases call with
  | add name =>
      cases hcontains : d.contains name with
      | true => simp [Displays.perform, outcome, standing, hcontains, add_eq_self]
      | false => simp [Displays.perform, outcome, standing, hcontains, names_add]
  | remove name =>
      cases hcontains : d.contains name with
      | false =>
          obtain ⟨hfind, hsame⟩ := remove_eq_self hcontains
          simp [Displays.perform, outcome, standing, hfind, hsame]
      | true =>
          obtain ⟨front, other, back, hnames, hother⟩ := exists_of_contains hcontains
          obtain ⟨hfind, hrest⟩ := h.find?_remove hnames hother
          have houtcome : d.outcome (.remove name) = .removed other := by
            rw [outcome, hfind]
            rfl
          rw [Displays.perform, hrest, houtcome, ← h.filter_ne hnames]
          simp [standing]

/-- The displays that stand are those that are listed. -/
lemma names_performAll (calls : List Call) :
    (performAll calls).names = standing (outcomes ∅ calls) := by
  induction calls using List.reverseRecOn with
  | nil => rfl
  | append_singleton calls call ih =>
      rw [performAll_append_singleton, outcomes_append_singleton, standing_append, ← ih]
      exact (distinct_performAll calls).names_perform call

/-! ### Answers -/

/-- How displays answer calls about a name. -/
structure Answers (d : Displays) (name : String) : Prop where
  /-- A display is refused exactly if one of the same spelling is registered. -/
  taken_iff : d.outcome (.add name) = .taken ↔ ∃ other ∈ d.names, SameSpelling other name
  /-- Then nothing changes; else it is put at the end. -/
  add : d.outcome (.add name) = .taken ∧ d.perform (.add name) = d ∨
    d.outcome (.add name) = .registered name ∧
      (d.perform (.add name)).names = d.names ++ [name]
  /-- There is nothing to remove exactly if none of the same spelling is registered. -/
  unknown_iff : d.outcome (.remove name) = .unknown ↔
    ¬ ∃ other ∈ d.names, SameSpelling other name
  /-- Then nothing changes; else the one that is goes, and the others stay as they
  are. -/
  remove : d.outcome (.remove name) = .unknown ∧ d.perform (.remove name) = d ∨
    ∃ front other back, d.names = front ++ other :: back ∧ SameSpelling other name ∧
      d.outcome (.remove name) = .removed other ∧
      (d.perform (.remove name)).names = front ++ back
  /-- Either way the name is free afterwards. -/
  free : (d.perform (.remove name)).contains name = false

/-- Displays of distinct names answer so. -/
lemma Distinct.answers (h : d.Distinct) (name : String) : d.Answers name := by
  have hfree := h.contains_remove name
  have htaken : d.contains name = true ↔ ∃ other ∈ d.names, SameSpelling other name :=
    contains_iff
  cases hcontains : d.contains name with
  | false =>
      obtain ⟨hfind, hsame⟩ := remove_eq_self hcontains
      have houtcome : d.outcome (.add name) = .registered name := by
        rw [outcome, hcontains]
        rfl
      have hunknown : d.outcome (.remove name) = .unknown := by
        rw [outcome, hfind]
        rfl
      refine ⟨?_, .inr ⟨houtcome, names_add hcontains⟩, ?_, .inl ⟨hunknown, hsame⟩, hfree⟩
      · rw [houtcome, ← htaken, hcontains]
        exact iff_of_false Outcome.noConfusion Bool.noConfusion
      · rw [← htaken, hcontains]
        exact iff_of_true hunknown Bool.noConfusion
  | true =>
      obtain ⟨front, other, back, hnames, hother⟩ := exists_of_contains hcontains
      obtain ⟨hfind, hrest⟩ := h.find?_remove hnames hother
      have houtcome : d.outcome (.add name) = .taken := by
        rw [outcome, hcontains]
        rfl
      have hremoved : d.outcome (.remove name) = .removed other := by
        rw [outcome, hfind]
        rfl
      refine ⟨?_, .inl ⟨houtcome, add_eq_self hcontains⟩, ?_,
        .inr ⟨front, other, back, hnames, hother, hremoved, hrest⟩, hfree⟩
      · rw [← htaken]
        exact iff_of_true houtcome hcontains
      · rw [hremoved, ← htaken]
        exact iff_of_false Outcome.noConfusion (not_not_intro hcontains)

/-- Displays of distinct names are each shown the state once. -/
lemma Distinct.count_refresh (h : d.Distinct) (name : String) (state : Core) :
    (d.refresh state).count (.refreshed name state) = if name ∈ d.names then 1 else 0 := by
  have hnodup : d.names.Nodup := h.imp fun hother heq => by
    subst heq
    exact hother ((sameName_iff _ _).mp (sameName_refl _))
  have hinj : Function.Injective (Notice.refreshed · state) := fun a b heq =>
    (Notice.refreshed.inj heq).1
  rw [refresh, ← hnodup.count]
  exact List.count_map_of_injective d.names _ hinj name

/-! ### Every sequence of calls -/

/-- **Displays are unique and in order.** After every sequence of calls no two
displays have names of the same spelling, and the displays are those that were
registered and not removed since, in the order of their registration. So displays are
refused, put at the end, found and removed by their spelling (`Answers`), and
refreshing with the state of a core shows each display this state once, in that
order. -/
theorem unique_and_ordered (calls : List Call) :
    (performAll calls).Distinct ∧
      (∀ name, (performAll calls).Answers name) ∧
      (performAll calls).names = standing (outcomes ∅ calls) ∧
      ∀ state : Core, (performAll calls).refresh state =
          (standing (outcomes ∅ calls)).map (.refreshed · state) ∧
        ∀ name, ((performAll calls).refresh state).count (.refreshed name state) =
          if name ∈ (performAll calls).names then 1 else 0 := by
  have hdistinct := distinct_performAll calls
  have hnames := names_performAll calls
  refine ⟨hdistinct, hdistinct.answers, hnames, fun state => ⟨?_, fun name => ?_⟩⟩
  · rw [refresh, hnames]
  · exact hdistinct.count_refresh name state

/-- A display that was removed under a name in other letters and registered again
comes last; a letter beyond Z stands only for itself. -/
example : (performAll [.add "Trace", .add "É", .add "é", .add "TRACE", .remove "tracE",
    .add "trace"]).names = ["É", "é", "trace"] := by
  cbv

end M68HC11.Displays
