import M68HC11.Proofs.Halting
import M68HC11.Run

/-!
What the displays of a machine are shown, and that steps do not depend on it.

* `refreshCalls`: what displays were shown according to a journal;
* `Machine.told`: what a step tells, which is the same behind any journal
  (`Machine.step_putJournal`) and shows displays nothing;
* `Machine.unrefreshed`: the machine but for what its displays were shown;
  steps go through it (`Machine.step_unrefreshed`), and refreshing the displays
  does nothing to it.
-/

namespace M68HC11

/-! ### What displays are shown -/

/-- What a notice shows a display. -/
def Notice.refresh? : Notice → Option (String × Core)
  | .refreshed display state => some (display, state)
  | _ => none

/-- What displays were shown according to a journal, in order. -/
def refreshCalls (journal : Array Notice) : List (String × Core) :=
  journal.toList.filterMap Notice.refresh?

/-- The journal without what displays were shown. -/
def withoutRefreshes (journal : Array Notice) : Array Notice :=
  journal.filter (·.refresh?.isNone)

/-- Further notices that show displays nothing stay in the journal. -/
lemma withoutRefreshes_append {journal : Array Notice} {notices : List Notice}
    (h : ∀ notice ∈ notices, notice.refresh? = none) :
    withoutRefreshes (journal ++ notices) = withoutRefreshes journal ++ notices := by
  have hall : notices.filter (·.refresh?.isNone) = notices :=
    List.filter_eq_self.mpr fun notice hmem => by rw [h notice hmem]; rfl
  apply Array.toList_inj.mp
  rw [withoutRefreshes, withoutRefreshes, Array.toList_filter, Array.toList_appendList,
    Array.toList_appendList, List.filter_append, hall, Array.toList_filter]

/-- What displays are shown goes out of the journal. -/
lemma withoutRefreshes_append_refresh (journal : Array Notice) (d : Displays) (state : Core) :
    withoutRefreshes (journal ++ d.refresh state) = withoutRefreshes journal := by
  have hnone : (d.refresh state).filter (·.refresh?.isNone) = [] := by
    rw [List.filter_eq_nil_iff]
    intro notice hmem
    obtain ⟨name, -, rfl⟩ := List.mem_map.mp hmem
    exact Bool.false_ne_true
  apply Array.toList_inj.mp
  rw [withoutRefreshes, withoutRefreshes, Array.toList_filter, Array.toList_appendList,
    List.filter_append, hnone, List.append_nil, Array.toList_filter]

/-- Further notices show displays more, behind what they were shown before. -/
lemma refreshCalls_append (journal : Array Notice) (notices : List Notice) :
    refreshCalls (journal ++ notices) =
      refreshCalls journal ++ notices.filterMap Notice.refresh? := by
  rw [refreshCalls, refreshCalls, Array.toList_appendList, List.filterMap_append]

/-- Calls to the listener for halts are no refreshes. -/
lemma haltCalls_withoutRefreshes (journal : Array Notice) :
    haltCalls (withoutRefreshes journal) = haltCalls journal := by
  have hsame : (fun notice : Notice => if notice.refresh?.isNone then notice.halt? else none) =
      Notice.halt? := by
    funext notice
    cases notice <;> rfl
  rw [haltCalls, haltCalls, withoutRefreshes, Array.toList_filter, List.filterMap_filter, hsame]

/-- A refresh shows each display the state. -/
lemma filterMap_refresh?_refresh (d : Displays) (state : Core) :
    (d.refresh state).filterMap Notice.refresh? = d.names.map (·, state) := by
  rw [Displays.refresh, List.filterMap_map, ← List.filterMap_eq_map]
  rfl

/-- Faults are shown to no display. -/
lemma refresh?_of_mem_faultNotices {faults : List Fault} {notice : Notice}
    (h : notice ∈ faultNotices faults) : notice.refresh? = none := by
  obtain ⟨fault, -, rfl⟩ := List.mem_map.mp h
  rfl

/-- Halts are shown to no display. -/
lemma Breakpoints.refresh?_of_mem_pollNotices {b : Breakpoints} {pc : UInt16} {notice : Notice}
    (h : notice ∈ b.pollNotices pc) : notice.refresh? = none := by
  rw [pollNotices] at h
  cases hhalt : b.haltAfter pc with
  | none =>
      rw [hhalt] at h
      cases h
  | some address =>
      rw [hhalt] at h
      rcases List.mem_cons.mp h with rfl | hmem
      · rfl
      · obtain ⟨listener, -, rfl⟩ := List.mem_map.mp hmem
        rfl

namespace Machine

variable {m m' : Machine}

/-- Hits are shown to no display. -/
lemma refresh?_of_hitNotice? {hit : Hit} {notice : Notice} (h : m.hitNotice? hit = some notice) :
    notice.refresh? = none := by
  rw [hitNotice?] at h
  split_ifs at h
  obtain ⟨observer, -, rfl⟩ := Option.map_eq_some_iff.mp h
  rfl

/-- The machine but for what its displays were shown. -/
def unrefreshed (m : Machine) : Machine := { m with journal := withoutRefreshes m.journal }

/-- What displays were shown is no part of the core. -/
lemma core_unrefreshed (m : Machine) : m.unrefreshed.core = m.core := rfl

/-- Refreshing the displays does nothing else. -/
@[simp] lemma unrefreshed_refreshDisplays (m : Machine) :
    m.refreshDisplays.unrefreshed = m.unrefreshed :=
  congrArg (fun journal => { m with journal }) (withoutRefreshes_append_refresh _ _ _)

/-- What a step tells: the faults of the instruction, then its hits, and then
a halt. -/
def told (m : Machine) : List Notice :=
  faultNotices m.core.processor.step.faults ++ m.stepHits.filterMap m.hitNotice? ++
    m.heard.pollNotices m.step.1.registers.pc

/-- A step shows displays nothing. -/
lemma refresh?_of_mem_told {notice : Notice} (h : notice ∈ m.told) : notice.refresh? = none := by
  rw [told, List.mem_append, List.mem_append] at h
  rcases h with (hfault | hhit) | hhalt
  · exact refresh?_of_mem_faultNotices hfault
  · obtain ⟨hit, -, hnotice⟩ := List.mem_filterMap.mp hhit
    exact refresh?_of_hitNotice? hnotice
  · exact Breakpoints.refresh?_of_mem_pollNotices hhalt

/-- A step tells the same behind any journal, which has no other influence on
it. -/
lemma step_putJournal (m : Machine) (journal : Array Notice) :
    { m with journal }.step = ({ m.step.1 with journal := journal ++ m.told }, m.step.2) := by
  have hassoc (a b c : List Notice) : journal ++ (a ++ b ++ c) = journal ++ a ++ b ++ c := by
    simp [← Array.toList_inj]
  rw [told, hassoc, registers, Core.registers, processor_step]
  simp only [step, deliverHits_eq]
  rfl

/-- What a step tells stands behind the journal. -/
lemma journal_step_eq (m : Machine) : m.step.1.journal = m.journal ++ m.told :=
  congrArg (·.1.journal) (m.step_putJournal m.journal)

/-- Steps go through the machine but for what its displays were shown. -/
lemma step_unrefreshed (m : Machine) : m.unrefreshed.step = (m.step.1.unrefreshed, m.step.2) := by
  rw [unrefreshed, unrefreshed, step_putJournal, journal_step_eq,
    withoutRefreshes_append fun _ => refresh?_of_mem_told]

/-- Any number of steps goes through it. -/
lemma stepTimes_unrefreshed (n : Nat) (m : Machine) :
    stepTimes n m.unrefreshed = (stepTimes n m).unrefreshed := by
  induction n generalizing m with
  | zero => rfl
  | succ n ih =>
      rw [stepTimes, step_unrefreshed]
      exact ih m.step.1

/-- Steps show displays nothing. -/
lemma refreshCalls_stepTimes (n : Nat) (m : Machine) :
    refreshCalls (stepTimes n m).journal = refreshCalls m.journal := by
  induction n generalizing m with
  | zero => rfl
  | succ n ih =>
      have hnone : m.told.filterMap Notice.refresh? = [] :=
        List.filterMap_eq_nil_iff.mpr fun _ => refresh?_of_mem_told
      calc refreshCalls (stepTimes n m.step.1).journal
          = refreshCalls m.step.1.journal := ih m.step.1
        _ = refreshCalls m.journal := by
            rw [journal_step_eq, refreshCalls_append, hnone, List.append_nil]

/-- The displays that a machine has, it keeps. -/
lemma displays_stepTimes (n : Nat) (m : Machine) : (stepTimes n m).displays = m.displays := by
  induction n generalizing m with
  | zero => rfl
  | succ n ih =>
      refine (ih m.step.1).trans ?_
      simp only [step, deliverHits_eq]
      rfl

end Machine

end M68HC11
