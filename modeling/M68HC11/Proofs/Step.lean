import M68HC11.Machine
import Mathlib.Tactic.Common

/-!
What a single step of a machine does, part by part.

* `Machine.deliverHits_eq`: delivering hits is the same whether there are any
  or not: the breakpoints hear of each in turn and the queue is empty
  afterwards;
* `Machine.heard`: the breakpoints once they have heard of the accesses of the
  instruction, from which both the halt and the outcome of the step are read;
* `Machine.core_step`, `Machine.breakpoints_step`, `Machine.outcome_step` and
  `Machine.journal_step` say what a step leaves in each part of the machine,
  so that no later proof opens the step itself. The processor of a machine
  steps as if nothing watched it.
-/

namespace M68HC11

namespace Machine

/-! ### Delivery -/

/-- Delivering the hits that wait, in one form for all queues. -/
lemma deliverHits_eq (m : Machine) :
    m.deliverHits =
      { m with
        core := { m.core with traps := m.core.traps.drain }
        breakpoints := m.core.traps.hits.foldl hearHit m.breakpoints
        journal := m.journal ++ m.core.traps.hits.filterMap m.hitNotice? } := by
  rw [deliverHits]
  cases hhits : m.core.traps.hits with
  | nil =>
      have hdrain : m.core.traps.drain = m.core.traps := by
        rw [Traps.drain, ← hhits]
      simp [hdrain]
  | cons hit hits => rfl

/-- The hits that wait for delivery once the instruction at the program
counter has been executed. -/
def stepHits (m : Machine) : List Hit := m.core.step.core.traps.hits

/-- The breakpoints once they have heard of the accesses of the instruction at
the program counter. What was left of an earlier halt is forgotten first. -/
def heard (m : Machine) : Breakpoints := m.stepHits.foldl hearHit m.breakpoints.resume

/-! ### The parts of a machine after a step -/

/-- The processor steps as if nothing watched it, registrations stay, and no
hit is left. -/
lemma core_step (m : Machine) :
    m.step.1.core = ⟨m.core.processor.step.processor, ⟨m.core.traps.entries, []⟩⟩ := by
  have hentries := Traps.entries_recordAll m.core.traps m.core.processor.step.accesses
    m.core.processor.registers.pc
  simp only [step, deliverHits_eq]
  rw [← hentries]
  rfl

/-- The processor steps as if nothing watched it. -/
@[simp] lemma processor_step (m : Machine) :
    m.step.1.core.processor = m.core.processor.step.processor := by
  rw [core_step]

/-- Registrations stay. -/
@[simp] lemma entries_step (m : Machine) :
    m.step.1.core.traps.entries = m.core.traps.entries := by
  rw [core_step]

/-- The breakpoints hear of the accesses and are polled with the program
counter that the instruction leaves. -/
lemma breakpoints_step (m : Machine) :
    m.step.1.breakpoints = m.heard.poll m.step.1.registers.pc := by
  rw [registers, Core.registers, processor_step]
  simp only [step, deliverHits_eq]
  rfl

/-- The outcome is that of the instruction, unless the poll finds a halt. -/
lemma outcome_step (m : Machine) :
    m.step.2 = .ofRetirement m.core.step.retirement
      (m.heard.haltAfter m.step.1.registers.pc) := by
  rw [registers, Core.registers, processor_step]
  simp only [step, deliverHits_eq]
  rfl

/-- The outcome of a step has the cycles of its instruction. -/
lemma cycles_outcome_step (m : Machine) : m.step.2.cycles = m.core.step.retirement.cycles := by
  rw [outcome_step]
  cases m.heard.haltAfter m.step.1.registers.pc with
  | some address => rfl
  | none => cases m.core.step.retirement <;> rfl

/-- A step tells of the faults of the instruction, then of its hits, and then
of a halt. -/
lemma journal_step (m : Machine) :
    m.step.1.journal =
      m.journal ++ faultNotices m.core.processor.step.faults ++
        m.stepHits.filterMap m.hitNotice? ++
        m.heard.pollNotices m.step.1.registers.pc := by
  rw [registers, Core.registers, processor_step]
  simp only [step, deliverHits_eq]
  rfl

/-- A step leaves the observers alone. -/
@[simp] lemma observers_step (m : Machine) : m.step.1.observers = m.observers := by
  simp only [step, deliverHits_eq]
  rfl

/-- A step gives out no handle. -/
@[simp] lemma nextHandle_step (m : Machine) : m.step.1.nextHandle = m.nextHandle := by
  simp only [step, deliverHits_eq]
  rfl

end Machine

/-! ### Breakpoints while they hear and are polled -/

namespace Breakpoints

/-- Whether a hit is of a breakpoint: it was recorded for the breakpoints, and
its address is a breakpoint for that kind of access. -/
def Wants (b : Breakpoints) (hit : Hit) : Prop :=
  hit.observer = Machine.breakpointHandle ∧ hit.address ∈ b.data hit.kind

/-- A hit of a breakpoint makes a halt at its instruction pending; any other
hit is ignored. -/
lemma hearHit_of_wants {b : Breakpoints} {hit : Hit} (h : b.Wants hit) :
    Machine.hearHit b hit = { b with state := .pending hit.instruction } := by
  rw [Machine.hearHit, if_pos h.1, hear, if_pos (AddressSet.contains_iff.mpr h.2)]

lemma hearHit_of_not_wants {b : Breakpoints} {hit : Hit} (h : ¬b.Wants hit) :
    Machine.hearHit b hit = b := by
  rw [Machine.hearHit, hear]
  by_cases hobserver : hit.observer = Machine.breakpointHandle
  · rw [if_pos hobserver, if_neg fun hmem => h ⟨hobserver, AddressSet.contains_iff.mp hmem⟩]
  · rw [if_neg hobserver]

/-- Hearing of hits changes nothing but the halt state. -/
lemma foldl_hearHit_eq (b : Breakpoints) (hits : List Hit) :
    ∃ state, hits.foldl Machine.hearHit b = { b with state } := by
  induction hits generalizing b with
  | nil => exact ⟨b.state, rfl⟩
  | cons hit hits ih =>
      by_cases h : b.Wants hit
      · obtain ⟨state, hstate⟩ := ih { b with state := .pending hit.instruction }
        exact ⟨state, by rw [List.foldl_cons, hearHit_of_wants h, hstate]⟩
      · obtain ⟨state, hstate⟩ := ih b
        exact ⟨state, by rw [List.foldl_cons, hearHit_of_not_wants h, hstate]⟩

/-- Hits that are of no breakpoint leave the halt state alone. -/
lemma foldl_hearHit_of_forall_not_wants {b : Breakpoints} {hits : List Hit}
    (h : ∀ hit ∈ hits, ¬b.Wants hit) : hits.foldl Machine.hearHit b = b := by
  induction hits with
  | nil => rfl
  | cons hit hits ih =>
      rw [List.foldl_cons, hearHit_of_not_wants (h hit (by simp))]
      exact ih fun hit' hmem => h hit' (by simp [hmem])

/-- Among the hits of one instruction a single one of a breakpoint makes a halt
there pending, wherever it stands among them. -/
lemma foldl_hearHit_of_wants {b : Breakpoints} {hits : List Hit} {instruction : UInt16}
    (hsame : ∀ hit ∈ hits, hit.instruction = instruction) (h : ∃ hit ∈ hits, b.Wants hit) :
    hits.foldl Machine.hearHit b = { b with state := .pending instruction } := by
  induction hits generalizing b with
  | nil => obtain ⟨hit, hmem, -⟩ := h; simp at hmem
  | cons first rest ih =>
      have hrest : ∀ hit ∈ rest, hit.instruction = instruction :=
        fun hit hmem => hsame hit (by simp [hmem])
      rw [List.foldl_cons]
      by_cases hfirst : b.Wants first
      · rw [hearHit_of_wants hfirst, hsame first (by simp)]
        by_cases hlater : ∃ hit ∈ rest, b.Wants hit
        · exact ih hrest hlater
        · refine foldl_hearHit_of_forall_not_wants fun hit hmem hwants => ?_
          exact hlater ⟨hit, hmem, hwants⟩
      · rw [hearHit_of_not_wants hfirst]
        obtain ⟨hit, hmem, hwants⟩ := h
        rcases List.mem_cons.mp hmem with rfl | hmem
        · exact absurd hwants hfirst
        · exact ih hrest ⟨hit, hmem, hwants⟩

/-- The poll changes nothing but the halt state. -/
lemma poll_eq (b : Breakpoints) (pc : UInt16) : ∃ state, b.poll pc = { b with state } := by
  rw [poll]
  cases b.haltAfter pc with
  | some address => exact ⟨.halted address, rfl⟩
  | none => exact ⟨b.state, rfl⟩

end Breakpoints

/-- A step changes nothing of the breakpoints but the halt state. -/
lemma Machine.breakpoints_step_eq (m : Machine) :
    ∃ state, m.step.1.breakpoints = { m.breakpoints with state } := by
  obtain ⟨heard, hheard⟩ := Breakpoints.foldl_hearHit_eq m.breakpoints.resume m.stepHits
  obtain ⟨polled, hpolled⟩ := m.heard.poll_eq m.step.1.registers.pc
  refine ⟨polled, ?_⟩
  rw [breakpoints_step, hpolled, Machine.heard, hheard]
  rfl

end M68HC11
