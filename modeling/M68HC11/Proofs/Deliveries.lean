import M68HC11.Proofs.Halting
import M68HC11.Proofs.Handles

/-!
The delivery of hits.

* `trapCalls`: the calls to observers in a journal;
* `Machine.Delivers`: the step of a machine delivers what its instruction has
  recorded, to each observer and to the breakpoints in the order of recording,
  and leaves nothing. It does if every trap is attended
  (`Machine.Attended.delivers`);
* `Machine.hits_delivered` (**hits reach those who have asked for them**): in
  every machine within reach the handles are told apart, every trap belongs to
  the observer that it was set for, and steps deliver.
-/

namespace M68HC11

/-! ### What observers are told -/

/-- What a notice tells an observer of an access. -/
def Notice.trapCall? : Notice → Option (String × AccessKind × UInt16 × UInt16)
  | .trapped observer kind address instruction => some (observer, kind, address, instruction)
  | _ => none

/-- The calls to observers in a journal, in order. -/
def trapCalls (journal : Array Notice) : List (String × AccessKind × UInt16 × UInt16) :=
  journal.toList.filterMap Notice.trapCall?

/-- Further notices are told behind the earlier ones. -/
lemma trapCalls_append (journal : Array Notice) (notices : List Notice) :
    trapCalls (journal ++ notices) = trapCalls journal ++ notices.filterMap Notice.trapCall? := by
  rw [trapCalls, trapCalls, Array.toList_appendList, List.filterMap_append]

/-- Faults are told to no observer. -/
lemma filterMap_trapCall?_faultNotices (faults : List Fault) :
    (faultNotices faults).filterMap Notice.trapCall? = [] := by
  rw [List.filterMap_eq_nil_iff]
  intro notice hmem
  obtain ⟨fault, -, rfl⟩ := List.mem_map.mp hmem
  rfl

/-- Halts are told to no observer. -/
lemma Breakpoints.filterMap_trapCall?_pollNotices (b : Breakpoints) (pc : UInt16) :
    (b.pollNotices pc).filterMap Notice.trapCall? = [] := by
  rw [List.filterMap_eq_nil_iff, pollNotices]
  cases b.haltAfter pc with
  | none => exact fun notice hmem => by cases hmem
  | some address =>
      intro notice hmem
      rcases List.mem_cons.mp hmem with rfl | hmem
      · rfl
      · obtain ⟨listener, -, rfl⟩ := List.mem_map.mp hmem
        rfl

namespace Machine

variable {m : Machine}

/-- A call to an observer is the delivery of a hit: it is made to the observer
that the handle of the hit stands for, and tells the access. -/
def Tells (m : Machine) (hit : Hit) (call : String × AccessKind × UInt16 × UInt16) : Prop :=
  ∃ label, m.observer? hit.observer = some label ∧
    call = (label, hit.kind, hit.address, hit.instruction)

/-- Each hit of an observer is delivered once, in order, if the observer is
registered. -/
lemma forall₂_tells {hits : List Hit}
    (h : ∀ hit ∈ hits, hit.observer = breakpointHandle ∨ m.hasObserver hit.observer = true) :
    List.Forall₂ m.Tells (hits.filter (·.observer ≠ breakpointHandle))
      ((hits.filterMap m.hitNotice?).filterMap Notice.trapCall?) := by
  induction hits with
  | nil => exact .nil
  | cons hit hits ih =>
      have hrest := ih fun other hmem => h other (List.mem_cons_of_mem _ hmem)
      by_cases hbreak : hit.observer = breakpointHandle
      · have hnone : m.hitNotice? hit = none := if_pos hbreak
        rw [List.filter_cons_of_neg (by simpa using hbreak), List.filterMap_cons_none hnone]
        exact hrest
      · have hknown := (h hit List.mem_cons_self).resolve_left hbreak
        obtain ⟨label, hlabel⟩ := Option.isSome_iff_exists.mp hknown
        have hsome : m.hitNotice? hit =
            some (.trapped label hit.kind hit.address hit.instruction) := by
          rw [hitNotice?, if_neg hbreak, hlabel]
          rfl
        rw [List.filter_cons_of_pos (by simpa using hbreak), List.filterMap_cons_some hsome]
        exact .cons ⟨label, hlabel, rfl⟩ hrest

/-- The step of a machine delivers its hits: those of the accesses of its
instruction, and no others. Each hit of an observer is told to it once and each
hit of the breakpoints is heard by them once, in the order of recording, and no
hit is left. -/
structure Delivers (m : Machine) : Prop where
  recorded : m.stepHits = m.core.processor.dataAccesses.flatMap fun access =>
    m.core.traps.hitsOf access m.registers.pc
  told : ∃ calls, trapCalls m.step.1.journal = trapCalls m.journal ++ calls ∧
    List.Forall₂ m.Tells (m.stepHits.filter (·.observer ≠ breakpointHandle)) calls
  heard : m.step.1.breakpoints =
    ((m.stepHits.filter (·.observer = breakpointHandle)).foldl
      (fun b hit => b.hear hit.kind hit.address hit.instruction) m.breakpoints.resume).poll
        m.step.1.registers.pc
  drained : m.step.1.core.traps.hits = []

/-- Steps deliver where every trap is attended. -/
lemma Attended.delivers (hm : m.Sound) (h : m.Attended) : m.Delivers where
  recorded := stepHits_eq hm
  told := by
    refine ⟨_, ?_, forall₂_tells fun hit hmem =>
      h ⟨hit.address, hit.observer⟩ ((mem_stepHits_iff hm).mp hmem).2.2⟩
    rw [journal_step, trapCalls_append, trapCalls_append, trapCalls_append,
      filterMap_trapCall?_faultNotices, Breakpoints.filterMap_trapCall?_pollNotices,
      List.append_nil, List.append_nil]
  heard := by
    rw [breakpoints_step, List.foldl_filter]
    simp only [decide_eq_true_eq]
    rfl
  drained := by rw [core_step]

/-- Steps are calls. -/
lemma stepTimes_performAll (i : Nat) (m : Machine) (calls : List Call) :
    stepTimes i (m.performAll calls) = m.performAll (calls ++ List.replicate i .step) := by
  induction i generalizing calls with
  | zero => simp [stepTimes]
  | succ i ih =>
      have hnext := ih (calls ++ [.step])
      rw [performAll_append_singleton, List.append_assoc] at hnext
      exact hnext

/-- **Hits reach those who have asked for them**: the calls have led to the
machine and have not used up the numbers of handles. Then no handle was given
out twice or is that of the breakpoints, and a handle stands for nobody else
than the observer it was given out for. Every trap is of the breakpoints or was
set for an observer that is registered and that its handle stood for then, no
hit waits, and every step from there on delivers its hits. -/
theorem hits_delivered {calls : List Call} (h : calls.countP Call.registers < 2 ^ 32 - 1) :
    let m := initial.performAll calls
    (breakpointHandle :: (initial.grants calls).map (·.1)).Nodup ∧
      (∀ handle label, m.observer? handle = some label → (handle, label) ∈ initial.grants calls) ∧
      (∀ trap ∈ m.core.traps.entries, trap.observer = breakpointHandle ∨
        ∃ label before, m.observer? trap.observer = some label ∧
          before ++ [.addTrap trap.address trap.observer] <+: calls ∧
            (initial.performAll before).observer? trap.observer = some label) ∧
      m.core.traps.hits = [] ∧
      ∀ i, (stepTimes i m).Delivers := by
  intro m
  have hnodup := nodup_grants (Nat.lt_of_lt_pred h)
  refine ⟨hnodup, fun _ _ => mem_grants_of_observer?, fun trap htrap => ?_,
    (sound_performAll calls).delivered, fun i => ?_⟩
  · by_cases hother : trap.observer = breakpointHandle
    · exact .inl hother
    · have hknown := (attended_performAll calls trap htrap).resolve_left hother
      obtain ⟨label, hlabel⟩ := Option.isSome_iff_exists.mp hknown
      obtain ⟨before, hpre, hknown'⟩ := exists_addTrap htrap hother
      obtain ⟨label', hlabel'⟩ := Option.isSome_iff_exists.mp hknown'
      -- Both times the handle stands for the observer that it was given out for.
      have hgrant := mem_grants_of_observer? hlabel
      have hgrant' := (prefix_grants ((List.prefix_append _ _).trans hpre) initial).subset
        (mem_grants_of_observer? hlabel')
      have hsame := List.inj_on_of_nodup_map (List.nodup_cons.mp hnodup).2 hgrant' hgrant rfl
      obtain rfl : label' = label := congrArg Prod.snd hsame
      exact .inr ⟨label', before, hlabel, hpre, hlabel'⟩
  · rw [show m = initial.performAll calls from rfl, stepTimes_performAll]
    exact (attended_performAll _).delivers (sound_performAll _)

/-- An observer of the byte that an instruction reads is removed, and another
one takes its place. -/
def replacedObserver : List Call :=
  readProgram ++ [.addObserver "probe", .addTrap 0x40 ⟨1⟩, .removeObserver ⟨1⟩,
    .addObserver "scope", .addTrap 0x40 ⟨2⟩, .addDataBreak .read 0x40]

/-- The new observer has a handle of its own and hears of the byte. -/
theorem hits_delivered_replacedObserver :
    replacedObserver.countP Call.registers < 2 ^ 32 - 1 ∧
      initial.grants replacedObserver = [(⟨1⟩, "probe"), (⟨2⟩, "scope")] ∧
        (breakpointHandle :: (initial.grants replacedObserver).map (·.1)).Nodup ∧
          (initial.performAll replacedObserver).stepHits =
            [⟨⟨2⟩, .read, 0x40, 0x20⟩, ⟨breakpointHandle, .read, 0x40, 0x20⟩] ∧
            (initial.performAll replacedObserver).Delivers := by
  have hcount : replacedObserver.countP Call.registers < 2 ^ 32 - 1 := by decide
  obtain ⟨hnodup, -, -, -, hdelivers⟩ := hits_delivered hcount
  exact ⟨hcount, by decide +kernel, hnodup, by decide +kernel, hdelivers 0⟩

end Machine

end M68HC11
