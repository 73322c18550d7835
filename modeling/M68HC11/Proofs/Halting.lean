import M68HC11.Proofs.Accesses
import M68HC11.Proofs.DataBreaks

/-!
When a step halts, and what is told of it.

* `Machine.TouchesBreak`: the instruction at the program counter accesses data
  that has a breakpoint for that kind of access;
* `Machine.exists_wants_iff`: in an armed machine this is so exactly if one of
  the hits that the step records is of a breakpoint, so that
  `Machine.heard_of_touchesBreak` and `Machine.heard_of_not_touchesBreak` say
  what the poll finds;
* `Machine.HaltsAt` and `Machine.RunsOn`: the two ways in which a step can end
  for those who hear of halts;
* `Machine.step_halting` (**when a step halts**): breakpoints on data go before
  those on execution, at the instruction itself, and those on execution are
  compared with the program counter that the instruction leaves;
* `Machine.disownedRead`: with as many registrations as there are numbers for
  handles, the traps of the breakpoints can be removed as those of an observer.
-/

namespace M68HC11

/-! ### What the listener is told -/

/-- The halt that a notice tells the listener of. -/
def Notice.halt? : Notice → Option (String × UInt16)
  | .halted listener address => some (listener, address)
  | _ => none

/-- The calls to the listener for halts in a journal, in order. -/
def haltCalls (journal : Array Notice) : List (String × UInt16) :=
  journal.toList.filterMap Notice.halt?

/-- Further notices are told behind the earlier ones. -/
lemma haltCalls_append (journal : Array Notice) (notices : List Notice) :
    haltCalls (journal ++ notices) = haltCalls journal ++ notices.filterMap Notice.halt? := by
  rw [haltCalls, haltCalls, Array.toList_appendList, List.filterMap_append]

/-- Faults are no halts. -/
lemma filterMap_halt?_faultNotices (faults : List Fault) :
    (faultNotices faults).filterMap Notice.halt? = [] := by
  rw [List.filterMap_eq_nil_iff]
  intro notice hmem
  obtain ⟨fault, -, rfl⟩ := List.mem_map.mp hmem
  rfl

/-- A halt is announced to the listener once, if there is one. -/
lemma filterMap_halt?_haltNotices (b : Breakpoints) (address : UInt16) :
    (b.haltNotices address).filterMap Notice.halt? =
      b.listener.toList.map fun listener => (listener, address) := by
  cases hlistener : b.listener with
  | none => rw [Breakpoints.haltNotices, hlistener]; rfl
  | some listener => rw [Breakpoints.haltNotices, hlistener]; rfl

/-- Forgetting a halt forgets no breakpoint. -/
lemma Breakpoints.data_resume (b : Breakpoints) (kind : AccessKind) :
    b.resume.data kind = b.data kind := by
  cases kind <;> rfl

namespace Machine

variable {m : Machine}

/-- Deliveries to observers are no halts. -/
lemma filterMap_halt?_hitNotices (m : Machine) (hits : List Hit) :
    (hits.filterMap m.hitNotice?).filterMap Notice.halt? = [] := by
  rw [List.filterMap_eq_nil_iff]
  intro notice hmem
  obtain ⟨hit, -, hnotice⟩ := List.mem_filterMap.mp hmem
  rw [hitNotice?] at hnotice
  split_ifs at hnotice with hobserver
  · obtain ⟨observer, -, rfl⟩ := Option.map_eq_some_iff.mp hnotice
    rfl

/-- A step calls the listener for the halt that its poll finds, and for
nothing else. -/
lemma haltCalls_step (m : Machine) :
    haltCalls m.step.1.journal = haltCalls m.journal ++
      (m.heard.pollNotices m.step.1.registers.pc).filterMap Notice.halt? := by
  rw [journal_step, haltCalls_append, haltCalls_append, haltCalls_append,
    filterMap_halt?_faultNotices, filterMap_halt?_hitNotices, List.append_nil, List.append_nil]

/-! ### Accesses that have a breakpoint -/

/-- Whether the instruction at the program counter accesses data that has a
breakpoint for that kind of access. -/
def TouchesBreak (m : Machine) : Prop :=
  ∃ access ∈ m.core.processor.dataAccesses, access.address ∈ m.breakpoints.data access.kind

instance (m : Machine) : Decidable m.TouchesBreak :=
  inferInstanceAs (Decidable (∃ access ∈ m.core.processor.dataAccesses,
    access.address ∈ m.breakpoints.data access.kind))

/-- The hits of a step are those of the accesses to data of its instruction,
where no hit waits before. -/
lemma stepHits_eq (h : m.Sound) :
    m.stepHits = m.core.processor.dataAccesses.flatMap fun access =>
      m.core.traps.hitsOf access m.registers.pc := by
  rw [stepHits, Core.hits_step, h.delivered, List.nil_append, Processor.accesses_step]
  rfl

/-- A step records a hit for each registration at the address of an access. -/
lemma mem_stepHits_iff (h : m.Sound) {hit : Hit} :
    hit ∈ m.stepHits ↔
      hit.instruction = m.registers.pc ∧
        (⟨hit.kind, hit.address⟩ : Access) ∈ m.core.processor.dataAccesses ∧
          (⟨hit.address, hit.observer⟩ : Trap) ∈ m.core.traps.entries := by
  rw [stepHits_eq h, List.mem_flatMap]
  constructor
  · rintro ⟨access, haccess, hmem⟩
    obtain ⟨trap, htrap, rfl⟩ := List.mem_map.mp hmem
    obtain ⟨hentry, hat⟩ := List.mem_filter.mp htrap
    rw [beq_iff_eq] at hat
    exact ⟨rfl, haccess, hat ▸ hentry⟩
  · rintro ⟨hpc, haccess, hentry⟩
    refine ⟨_, haccess, List.mem_map.mpr ⟨_, List.mem_filter.mpr ⟨hentry, beq_self_eq_true _⟩, ?_⟩⟩
    rw [← hpc]

/-- An armed machine has a trap wherever it has a breakpoint on data. -/
lemma Armed.mem_entries (h : m.Armed) {kind : AccessKind} {address : UInt16}
    (hmem : address ∈ m.breakpoints.data kind) :
    (⟨address, breakpointHandle⟩ : Trap) ∈ m.core.traps.entries := by
  by_contra hnone
  have hzero : m.breakpoints.dataBreaksAt address = 0 := by
    rw [← h address]
    exact List.count_eq_zero.mpr hnone
  exact Breakpoints.dataBreaksAt_eq_zero_iff.mp hzero kind hmem

/-- An armed machine records a hit of a breakpoint exactly if an access has
one. -/
lemma exists_wants_iff (hm : m.Sound) (h : m.Armed) :
    (∃ hit ∈ m.stepHits, m.breakpoints.resume.Wants hit) ↔ m.TouchesBreak := by
  constructor
  · rintro ⟨hit, hhit, -, hmem⟩
    rw [Breakpoints.data_resume] at hmem
    exact ⟨_, ((mem_stepHits_iff hm).mp hhit).2.1, hmem⟩
  · rintro ⟨access, haccess, hmem⟩
    refine ⟨⟨breakpointHandle, access.kind, access.address, m.registers.pc⟩,
      (mem_stepHits_iff hm).mpr ⟨rfl, haccess, h.mem_entries hmem⟩, rfl, ?_⟩
    rw [Breakpoints.data_resume]
    exact hmem

/-- After an access that has a breakpoint a halt at the instruction is
pending. -/
lemma heard_of_touchesBreak (hm : m.Sound) (h : m.Armed) (htouches : m.TouchesBreak) :
    m.heard = { m.breakpoints with state := .pending m.registers.pc } :=
  Breakpoints.foldl_hearHit_of_wants (fun _ hhit => ((mem_stepHits_iff hm).mp hhit).1)
    ((exists_wants_iff hm h).mpr htouches)

/-- Without such an access no halt is pending, whatever was before. -/
lemma heard_of_not_touchesBreak (hm : m.Sound) (h : m.Armed) (hnot : ¬m.TouchesBreak) :
    m.heard = m.breakpoints.resume :=
  Breakpoints.foldl_hearHit_of_forall_not_wants fun hit hhit hwants =>
    hnot ((exists_wants_iff hm h).mp ⟨hit, hhit, hwants⟩)

/-- Where the breakpoints have no traps, no halt is pending after a step. -/
lemma heard_of_forall_notMem (hm : m.Sound)
    (h : ∀ address, (⟨address, breakpointHandle⟩ : Trap) ∉ m.core.traps.entries) :
    m.heard = m.breakpoints.resume :=
  Breakpoints.foldl_hearHit_of_forall_not_wants fun hit hhit hwants =>
    h hit.address (hwants.1 ▸ ((mem_stepHits_iff hm).mp hhit).2.2)

/-! ### The two ways to end a step -/

/-- The step of a machine halts at an address: its outcome says so, the
machine is halted there, and the listener is called once. -/
structure HaltsAt (m : Machine) (address : UInt16) : Prop where
  outcome : m.step.2 = .breakpointHit address m.core.step.retirement.cycles
  state : m.step.1.breakpoints.state = .halted address
  calls : haltCalls m.step.1.journal =
    haltCalls m.journal ++ m.breakpoints.listener.toList.map fun listener => (listener, address)

/-- The step of a machine does not halt: its outcome is that of the
instruction, the machine is running, and the listener is not called. -/
structure RunsOn (m : Machine) : Prop where
  outcome : m.step.2 = match m.core.step.retirement with
    | .retired cycles => .retired cycles
    | .invalidOpcode fault cycles => .invalidOpcode fault cycles
  state : m.step.1.breakpoints.state = .running
  calls : haltCalls m.step.1.journal = haltCalls m.journal

/-- A step that runs on halts nowhere. -/
lemma RunsOn.not_haltsAt (h : m.RunsOn) (address : UInt16) : ¬m.HaltsAt address := by
  intro hhalts
  have hstate := h.state.symm.trans hhalts.state
  cases hstate

/-- A step halts where the poll finds a halt. -/
lemma haltsAt_of_haltAfter {address : UInt16}
    (h : m.heard.haltAfter m.step.1.registers.pc = some address) : m.HaltsAt address := by
  obtain ⟨state, hstate⟩ := Breakpoints.foldl_hearHit_eq m.breakpoints.resume m.stepHits
  have hlistener : m.heard.listener = m.breakpoints.listener := by
    rw [heard, hstate]
    rfl
  refine ⟨?_, ?_, ?_⟩
  · rw [outcome_step, h]
    rfl
  · rw [breakpoints_step, Breakpoints.poll, h]
  · rw [haltCalls_step, Breakpoints.pollNotices, h, filterMap_halt?_haltNotices, hlistener]

/-- A step runs on where no halt is pending and the poll finds none. -/
lemma runsOn_of_haltAfter (hstate : m.heard.state = .running)
    (h : m.heard.haltAfter m.step.1.registers.pc = none) : m.RunsOn := by
  refine ⟨?_, ?_, ?_⟩
  · rw [outcome_step, h]
    rfl
  · rw [breakpoints_step, Breakpoints.poll, h]
    exact hstate
  · rw [haltCalls_step, Breakpoints.pollNotices, h, List.filterMap_nil, List.append_nil]

/-- A step runs on where no halt is pending and the program counter that it
leaves has no breakpoint. -/
lemma runsOn_of_heard (hheard : m.heard = m.breakpoints.resume)
    (hexec : m.step.1.registers.pc ∉ m.breakpoints.exec) : m.RunsOn := by
  refine runsOn_of_haltAfter (by rw [hheard]; rfl) ?_
  rw [hheard]
  exact if_neg (mt AddressSet.contains_iff.mp hexec)

/-- What is left of an earlier halt has no influence on a step. -/
lemma step_putState (m : Machine) (state : HaltState) :
    { m with breakpoints := { m.breakpoints with state } }.step = m.step :=
  rfl

/-- **When a step halts**: the calls have led to the machine with fewer
registrations of observers than there are numbers for handles, and without
naming the handle of the breakpoints to have traps removed. If the instruction
accesses data that has a breakpoint, the step halts at the instruction;
otherwise, if the program counter that the instruction leaves has a breakpoint
on execution, the step halts there; otherwise it does not halt. The cycles are
those of the instruction, and what was left of an earlier halt has no
influence. -/
theorem step_halting {calls : List Call} (hleft : calls.countP Call.registers < 2 ^ 32)
    (h : ∀ call ∈ calls, call.SparesBreakTraps) :
    let m := initial.performAll calls
    (m.TouchesBreak → m.HaltsAt m.registers.pc) ∧
      (¬m.TouchesBreak → m.step.1.registers.pc ∈ m.breakpoints.exec →
        m.HaltsAt m.step.1.registers.pc) ∧
      (¬m.TouchesBreak → m.step.1.registers.pc ∉ m.breakpoints.exec → m.RunsOn) ∧
      m.step.2.cycles = m.core.step.retirement.cycles ∧
      ∀ state, { m with breakpoints := { m.breakpoints with state } }.step = m.step := by
  intro m
  have hm : m.Sound := sound_performAll calls
  have harmed : m.Armed := armed_performAll hleft h
  refine ⟨fun htouches => ?_, fun hnot hexec => ?_, fun hnot hexec => ?_, m.cycles_outcome_step,
    m.step_putState⟩
  · refine haltsAt_of_haltAfter ?_
    rw [heard_of_touchesBreak hm harmed htouches]
    rfl
  · refine haltsAt_of_haltAfter ?_
    rw [heard_of_not_touchesBreak hm harmed hnot]
    exact if_pos (AddressSet.contains_iff.mpr hexec)
  · exact runsOn_of_heard (heard_of_not_touchesBreak hm harmed hnot) hexec

/-- An instruction that reads a byte, with a breakpoint on reading it and a
listener. -/
def watchedRead : List Call :=
  readProgram ++ [.addDataBreak .read 0x40, .setListener "console"]

/-- The instruction that reads the byte halts the machine. -/
theorem step_halting_watchedRead :
    watchedRead.countP Call.registers < 2 ^ 32 ∧
      (∀ call ∈ watchedRead, call.SparesBreakTraps) ∧
        (initial.performAll watchedRead).TouchesBreak ∧
          (initial.performAll watchedRead).HaltsAt 0x20 := by
  have hleft : watchedRead.countP Call.registers < 2 ^ 32 := by decide
  have hspares : ∀ call ∈ watchedRead, call.SparesBreakTraps := by
    simp [watchedRead, readProgram, Call.SparesBreakTraps]
  have htouches : (initial.performAll watchedRead).TouchesBreak := by decide +kernel
  exact ⟨hleft, hspares, htouches, (step_halting hleft hspares).1 htouches⟩

/-! ### When the numbers of handles have wrapped around -/

/-- An instruction that reads a byte, with a breakpoint on reading it. -/
def brokenRead : List Call := readProgram ++ [.addDataBreak .read 0x40]

/-- Behind that so many observers are registered, and the one with the handle
of the breakpoints is removed. -/
def disownedRead (registrations : Nat) : List Call :=
  brokenRead ++ List.replicate registrations (.addObserver "probe") ++
    [.removeObserver breakpointHandle]

/-- None of these calls names the handle of the breakpoints to have traps
removed. -/
lemma sparesBreakTraps_disownedRead (n : Nat) :
    ∀ call ∈ disownedRead n, call.SparesBreakTraps := by
  intro call hmem
  simp only [disownedRead, brokenRead, readProgram, List.mem_append, List.mem_cons,
    List.mem_replicate, List.not_mem_nil, or_false] at hmem
  rcases hmem with (((rfl | rfl) | rfl) | ⟨-, rfl⟩) | rfl <;> trivial

/-- Registrations change nothing but the observers and the next handle. -/
lemma exists_performAll_replicate (m : Machine) (label : String) (n : Nat) :
    ∃ observers nextHandle,
      m.performAll (List.replicate n (.addObserver label)) = { m with observers, nextHandle } := by
  induction n generalizing m with
  | zero => exact ⟨_, _, rfl⟩
  | succ n ih => exact ih (m.perform (.addObserver label))

/-- With as many registrations as there are numbers, the observer that is
removed takes the traps of the breakpoints along. -/
lemma exists_performAll_disownedRead {n : Nat} (hn : n = 2 ^ 32) :
    ∃ observers nextHandle, initial.performAll (disownedRead n) =
      { (initial.performAll brokenRead).clearTrapsOf breakpointHandle with
        observers, nextHandle } := by
  obtain ⟨observers, nextHandle, hregistered⟩ :=
    exists_performAll_replicate (initial.performAll brokenRead) "probe" n
  have hknown : (initial.performAll
      (brokenRead ++ List.replicate n (.addObserver "probe"))).hasObserver breakpointHandle =
        true := by
    obtain ⟨k, rfl⟩ : ∃ k, n = k + 1 := ⟨2 ^ 32 - 1, hn⟩
    rw [List.replicate_succ', ← List.append_assoc]
    refine hasObserver_breakpointHandle_of_wrapped ?_ _
    have hnone : brokenRead.countP Call.registers = 0 := rfl
    have hall : (List.replicate k (Call.addObserver "probe")).countP Call.registers = k := by
      rw [List.countP_replicate]
      exact if_pos rfl
    rw [List.countP_append, hnone, hall]
    omega
  refine ⟨observers.filter (·.1 ≠ breakpointHandle), nextHandle, ?_⟩
  rw [disownedRead, performAll_append_singleton, perform, removeObserver, if_pos hknown,
    performAll_append, hregistered]
  rfl

/-- The instruction accesses data that has a breakpoint and does not halt. -/
lemma touchesBreak_and_runsOn_disownedRead {n : Nat} (hn : n = 2 ^ 32) :
    (initial.performAll (disownedRead n)).TouchesBreak ∧
      (initial.performAll (disownedRead n)).RunsOn := by
  obtain ⟨observers, nextHandle, hm⟩ := exists_performAll_disownedRead hn
  constructor
  · have htouches : (initial.performAll brokenRead).TouchesBreak := by decide +kernel
    rw [hm]
    exact htouches
  · have hnone (address : UInt16) : (⟨address, breakpointHandle⟩ : Trap) ∉
        (initial.performAll (disownedRead n)).core.traps.entries := by
      rw [hm]
      exact fun hmem => bne_iff_ne.mp (List.mem_filter.mp hmem).2 rfl
    have hexec : (initial.performAll (disownedRead n)).breakpoints.exec = ∅ := by
      rw [hm]
      rfl
    refine runsOn_of_heard (heard_of_forall_notMem (sound_performAll _) hnone) ?_
    rw [hexec]
    exact AddressSet.not_mem_empty _

/-- **Once all numbers have been given out a step need not halt**: the handle of
the breakpoints has been given out like any other, and removing the observer
behind it has taken the traps of the breakpoints. Without a call that names this
handle to have traps removed, the instruction accesses data that has a breakpoint
and does not halt. -/
theorem not_haltsAt_disownedRead :
    let m := initial.performAll (disownedRead (2 ^ 32))
    (∀ call ∈ disownedRead (2 ^ 32), call.SparesBreakTraps) ∧
      m.TouchesBreak ∧ ¬m.HaltsAt m.registers.pc := by
  intro m
  obtain ⟨htouches, hruns⟩ := touchesBreak_and_runsOn_disownedRead rfl
  exact ⟨sparesBreakTraps_disownedRead _, htouches, hruns.not_haltsAt _⟩

end Machine

end M68HC11
