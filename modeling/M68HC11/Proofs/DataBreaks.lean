import M68HC11.Proofs.Handles

/-!
Breakpoints on data and their traps.

A breakpoint on data is kept twice: its address is in one of the sets of the
breakpoints, and a trap is registered under the handle of the breakpoints.

* `Machine.Armed`: at every address the breakpoints have as many traps as they
  have breakpoints on data;
* `Call.Disarms`: the calls that take a trap of the breakpoints and leave the
  breakpoint listed, or set a trap for the breakpoints without one. All of them
  have to name the handle of the breakpoints, and two of them, those for
  registered observers, can do so only after the numbers of handles have wrapped
  around;
* `Machine.armed_perform_iff`: a call keeps an armed machine armed unless it is
  one of these, and `Machine.forall_armed_iff` (**when breakpoints keep their
  traps**) says the same of sequences of calls;
* `Machine.armed_performAll`: calls that leave the handle of the breakpoints
  alone lead to an armed machine, while there are numbers for handles left.
-/

namespace M68HC11

/-! ### How many traps of a kind there are -/

namespace Traps

/-- A new trap counts once. -/
lemma count_add (t : Traps) (address : UInt16) (observer : Handle) (trap : Trap) :
    (t.add address observer).entries.count trap =
      t.entries.count trap + if trap = ⟨address, observer⟩ then 1 else 0 := by
  by_cases h : trap = ⟨address, observer⟩
  · subst h
    simp [add]
  · have hne : ((⟨address, observer⟩ : Trap) == trap) = false := beq_false_of_ne (Ne.symm h)
    simp [add, List.count_singleton, h, hne]

/-- A trap that is removed counts no more, if there was one. -/
lemma count_remove (t : Traps) (address : UInt16) (observer : Handle) (trap : Trap) :
    (t.remove address observer).entries.count trap =
      t.entries.count trap - if trap = ⟨address, observer⟩ then 1 else 0 := by
  by_cases h : trap = ⟨address, observer⟩
  · subst h
    simp [remove]
  · rw [remove, List.count_erase_of_ne h, if_neg h, Nat.sub_zero]

/-- Keeping the traps that differ in something leaves none that agree and all
the others. -/
lemma count_filter_bne {α : Type} [DecidableEq α] (f : Trap → α) (value : α) (traps : List Trap)
    (trap : Trap) :
    (traps.filter fun t => f t != value).count trap =
      if f trap = value then 0 else traps.count trap := by
  by_cases h : f trap = value
  · rw [if_pos h, List.count_eq_zero]
    intro hmem
    have hkept := (List.mem_filter.mp hmem).2
    exact bne_iff_ne.mp hkept h
  · rw [if_neg h]
    exact List.count_filter (bne_iff_ne.mpr h)

/-- Clearing an address leaves no trap there and those elsewhere alone. -/
lemma count_clearAt (t : Traps) (address : UInt16) (trap : Trap) :
    (t.clearAt address).entries.count trap =
      if trap.address = address then 0 else t.entries.count trap :=
  count_filter_bne Trap.address address t.entries trap

/-- Clearing an observer leaves no trap of its and those of others alone. -/
lemma count_clearOf (t : Traps) (observer : Handle) (trap : Trap) :
    (t.clearOf observer).entries.count trap =
      if trap.observer = observer then 0 else t.entries.count trap :=
  count_filter_bne Trap.observer observer t.entries trap

end Traps

/-! ### How many breakpoints an address has -/

namespace Breakpoints

/-- How many breakpoints on data there are at an address. -/
def dataBreaksAt (b : Breakpoints) (address : UInt16) : Nat :=
  (b.read.contains address).toNat + (b.write.contains address).toNat

/-- An address without breakpoints is in neither set. -/
lemma dataBreaksAt_eq_zero_iff {b : Breakpoints} {address : UInt16} :
    b.dataBreaksAt address = 0 ↔ ∀ kind, address ∉ b.data kind := by
  have hzero (s : AddressSet) : (s.contains address).toNat = 0 ↔ address ∉ s := by
    rw [Bool.toNat_eq_zero, Bool.eq_false_iff, ne_eq, AddressSet.contains_iff]
  rw [dataBreaksAt, Nat.add_eq_zero_iff, hzero, hzero]
  constructor
  · rintro ⟨hread, hwrite⟩ kind
    cases kind with
    | read => exact hread
    | write => exact hwrite
  · exact fun h => ⟨h .read, h .write⟩

/-- A new breakpoint counts once, at its own address. -/
lemma dataBreaksAt_insert {b : Breakpoints} {kind : AccessKind} {address : UInt16}
    (h : address ∉ b.data kind) (other : UInt16) :
    (b.putData kind ((b.data kind).insert address)).dataBreaksAt other =
      b.dataBreaksAt other + if other = address then 1 else 0 := by
  have hnew : (b.data kind).contains address = false :=
    Bool.eq_false_iff.mpr (mt AddressSet.contains_iff.mp h)
  by_cases heq : other = address
  · subst heq
    cases kind <;> simp only [data] at hnew <;>
      simp [dataBreaksAt, putData, data, hnew, Nat.add_comm]
  · have hne : (other == address) = false := beq_false_of_ne heq
    cases kind <;> simp [dataBreaksAt, putData, data, heq, hne]

/-- A breakpoint that is removed was counted once, at its own address. -/
lemma dataBreaksAt_erase {b : Breakpoints} {kind : AccessKind} {address : UInt16}
    (h : address ∈ b.data kind) (other : UInt16) :
    (b.putData kind ((b.data kind).erase address)).dataBreaksAt other =
      b.dataBreaksAt other - if other = address then 1 else 0 := by
  have hlisted : (b.data kind).contains address = true := AddressSet.contains_iff.mpr h
  by_cases heq : other = address
  · subst heq
    cases kind <;> simp only [data] at hlisted <;> simp [dataBreaksAt, putData, data, hlisted]
  · have hne : (other != address) = true := bne_iff_ne.mpr heq
    cases kind <;> simp [dataBreaksAt, putData, data, heq, hne]

/-- Breakpoints that are forgotten count no more. -/
lemma dataBreaksAt_forgetData (b : Breakpoints) (address other : UInt16) :
    (b.forgetData address).dataBreaksAt other =
      if other = address then 0 else b.dataBreaksAt other := by
  by_cases heq : other = address
  · simp [dataBreaksAt, forgetData, heq]
  · have hne : (other != address) = true := bne_iff_ne.mpr heq
    simp [dataBreaksAt, forgetData, heq, hne]

end Breakpoints

/-! ### Calls and the traps of breakpoints -/

/-- Whether a call takes a trap of the breakpoints from a machine but leaves
the breakpoint listed, or sets a trap for them. An observer can be removed and
have traps set under the handle of the breakpoints only if it has been given
that handle. -/
def Call.Disarms (m : Machine) : Call → Prop
  | .removeTrap address handle =>
    handle = Machine.breakpointHandle ∧ ∃ kind, address ∈ m.breakpoints.data kind
  | .clearTrapsOf handle =>
    handle = Machine.breakpointHandle ∧ ∃ kind address, address ∈ m.breakpoints.data kind
  | .removeObserver handle =>
    m.hasObserver handle = true ∧
      handle = Machine.breakpointHandle ∧ ∃ kind address, address ∈ m.breakpoints.data kind
  | .addTrap _ handle => m.hasObserver handle = true ∧ handle = Machine.breakpointHandle
  | _ => False

/-- Whether a call leaves the handle of the breakpoints alone where traps are
removed. -/
def Call.SparesBreakTraps : Call → Prop
  | .removeTrap _ handle | .clearTrapsOf handle => handle ≠ Machine.breakpointHandle
  | _ => True

/-- To disarm a machine a call has to name the handle of the breakpoints, and
where it is for a registered observer, that has to be its handle. -/
lemma Call.SparesBreakTraps.not_disarms {call : Call} (h : call.SparesBreakTraps) {m : Machine}
    (hfree : m.hasObserver Machine.breakpointHandle = false) : ¬call.Disarms m := by
  intro hdisarms
  cases call with
  | removeTrap address handle => exact h hdisarms.1
  | clearTrapsOf handle => exact h hdisarms.1
  | removeObserver handle =>
      obtain ⟨hknown, rfl, -⟩ := hdisarms
      exact Bool.false_ne_true (hfree.symm.trans hknown)
  | addTrap address handle =>
      obtain ⟨hknown, rfl⟩ := hdisarms
      exact Bool.false_ne_true (hfree.symm.trans hknown)
  | _ => exact hdisarms

namespace Machine

variable {m : Machine}

/-- How many traps the breakpoints have at an address. -/
def breakTrapsAt (m : Machine) (address : UInt16) : Nat :=
  m.core.traps.entries.count ⟨address, breakpointHandle⟩

/-- The breakpoints have as many traps at every address as there are
breakpoints on data. -/
def Armed (m : Machine) : Prop :=
  ∀ address, m.breakTrapsAt address = m.breakpoints.dataBreaksAt address

/-- A machine after a reset has neither. -/
lemma armed_initial : initial.Armed := fun _ => rfl

/-- Only the registrations and the sets of breakpoints on data matter. -/
lemma Armed.congr {m' : Machine} (h : m.Armed)
    (hentries : m'.core.traps.entries = m.core.traps.entries)
    (hread : m'.breakpoints.read = m.breakpoints.read)
    (hwrite : m'.breakpoints.write = m.breakpoints.write) : m'.Armed := by
  intro address
  have hhere := h address
  rw [breakTrapsAt, Breakpoints.dataBreaksAt] at hhere ⊢
  rw [hentries, hread, hwrite, hhere]

/-- A step takes no trap and no breakpoint. -/
lemma Armed.step (h : m.Armed) : m.step.1.Armed := by
  obtain ⟨state, hstate⟩ := m.breakpoints_step_eq
  exact h.congr m.entries_step (by rw [hstate]) (by rw [hstate])

/-- A trap that is set for a registered observer is one of the breakpoints only
under their handle. -/
lemma Armed.addTrap_iff (h : m.Armed) (address : UInt16) (handle : Handle) :
    (m.addTrap address handle).Armed ↔
      ¬(m.hasObserver handle = true ∧ handle = breakpointHandle) := by
  rw [Machine.addTrap]
  split_ifs with hknown
  · have hcount (other : UInt16) :
        (m.core.traps.add address handle).entries.count ⟨other, breakpointHandle⟩ =
          m.breakpoints.dataBreaksAt other +
            if (⟨other, breakpointHandle⟩ : Trap) = ⟨address, handle⟩ then 1 else 0 := by
      rw [← h other]
      exact Traps.count_add _ _ _ _
    constructor
    · rintro harmed ⟨-, rfl⟩
      have hhere := (hcount address).symm.trans (harmed address)
      rw [if_pos rfl] at hhere
      exact absurd hhere (Nat.succ_ne_self _)
    · intro hother other
      have hne : (⟨other, breakpointHandle⟩ : Trap) ≠ ⟨address, handle⟩ := fun heq =>
        hother ⟨hknown, (Trap.mk.inj heq).2.symm⟩
      have hhere := hcount other
      rwa [if_neg hne] at hhere
  · exact iff_of_true h fun hnot => hknown hnot.1

/-- A breakpoint comes with a trap. -/
lemma Armed.addDataBreak (h : m.Armed) (hm : m.Sound) (kind : AccessKind) (address : UInt16) :
    (m.addDataBreak kind address).Armed := by
  by_cases hmem : address ∈ m.breakpoints.data kind
  · rwa [addDataBreak_of_mem hmem]
  · rw [addDataBreak_of_notMem hmem]
    intro other
    have hhere := h other
    rw [breakTrapsAt] at hhere ⊢
    rw [Breakpoints.dataBreaksAt_insert hmem, Traps.count_add, hhere, hm.owner]
    simp

/-- A breakpoint goes with a trap. -/
lemma Armed.removeDataBreak (h : m.Armed) (hm : m.Sound) (kind : AccessKind)
    (address : UInt16) : (m.removeDataBreak kind address).Armed := by
  by_cases hmem : address ∈ m.breakpoints.data kind
  · rw [removeDataBreak_of_mem hmem]
    intro other
    have hhere := h other
    rw [breakTrapsAt] at hhere ⊢
    rw [Breakpoints.dataBreaksAt_erase hmem, Traps.count_remove, hhere, hm.owner]
    simp
  · rwa [removeDataBreak_of_notMem hmem]

/-- Traps that are cleared at an address take the breakpoints there along. -/
lemma Armed.clearTrapsAt (h : m.Armed) (address : UInt16) : (m.clearTrapsAt address).Armed := by
  intro other
  have hhere := h other
  rw [breakTrapsAt] at hhere ⊢
  rw [Machine.clearTrapsAt, Traps.count_clearAt, Breakpoints.dataBreaksAt_forgetData, hhere]

/-- One trap of the breakpoints can be spared where there is no breakpoint. -/
lemma Armed.removeTrap_iff (h : m.Armed) (address : UInt16) (handle : Handle) :
    (m.removeTrap address handle).Armed ↔
      ¬(handle = breakpointHandle ∧ ∃ kind, address ∈ m.breakpoints.data kind) := by
  have hcount (other : UInt16) : (m.removeTrap address handle).breakTrapsAt other =
      m.breakpoints.dataBreaksAt other -
        if (⟨other, breakpointHandle⟩ : Trap) = ⟨address, handle⟩ then 1 else 0 := by
    rw [← h other]
    exact Traps.count_remove _ _ _ _
  constructor
  · rintro harmed ⟨rfl, kind, hmem⟩
    have hhere := harmed address
    rw [hcount, if_pos rfl] at hhere
    have hless : m.breakpoints.dataBreaksAt address - 1 = m.breakpoints.dataBreaksAt address :=
      hhere
    have hzero : m.breakpoints.dataBreaksAt address = 0 := by omega
    exact Breakpoints.dataBreaksAt_eq_zero_iff.mp hzero kind hmem
  · intro hspared other
    rw [hcount]
    split_ifs with heq
    · injection heq with haddress hhandle
      have hzero : m.breakpoints.dataBreaksAt other = 0 :=
        Breakpoints.dataBreaksAt_eq_zero_iff.mpr fun kind hmem =>
          hspared ⟨hhandle.symm, kind, haddress ▸ hmem⟩
      rw [hzero]
      exact hzero.symm
    · rfl

/-- All traps of the breakpoints can be spared where there is no breakpoint at
all. -/
lemma Armed.clearTrapsOf_iff (h : m.Armed) (handle : Handle) :
    (m.clearTrapsOf handle).Armed ↔
      ¬(handle = breakpointHandle ∧ ∃ kind address, address ∈ m.breakpoints.data kind) := by
  have hcount (other : UInt16) : (m.clearTrapsOf handle).breakTrapsAt other =
      if breakpointHandle = handle then 0 else m.breakpoints.dataBreaksAt other := by
    rw [← h other]
    exact Traps.count_clearOf _ _ _
  constructor
  · rintro harmed ⟨rfl, kind, address, hmem⟩
    have hhere := harmed address
    rw [hcount, if_pos rfl] at hhere
    exact Breakpoints.dataBreaksAt_eq_zero_iff.mp hhere.symm kind hmem
  · intro hspared other
    rw [hcount]
    split_ifs with heq
    · refine (Breakpoints.dataBreaksAt_eq_zero_iff.mpr fun kind hmem => ?_).symm
      exact hspared ⟨heq.symm, kind, other, hmem⟩
    · rfl

/-- An observer that is removed takes its own traps along, and those of the
breakpoints only under their handle. -/
lemma Armed.removeObserver_iff (h : m.Armed) (handle : Handle) :
    (m.removeObserver handle).Armed ↔
      ¬(m.hasObserver handle = true ∧
        handle = breakpointHandle ∧ ∃ kind address, address ∈ m.breakpoints.data kind) := by
  rw [Machine.removeObserver]
  split_ifs with hknown
  · refine Iff.trans ?_ ((h.clearTrapsOf_iff handle).trans (not_congr ?_))
    · exact ⟨fun harmed => harmed.congr rfl rfl rfl, fun harmed => harmed.congr rfl rfl rfl⟩
    · exact ⟨fun hnot => ⟨hknown, hnot⟩, And.right⟩
  · exact iff_of_true h fun hnot => hknown hnot.1

/-- A call keeps an armed machine armed unless it disarms it. -/
lemma armed_perform_iff (hm : m.Sound) (h : m.Armed) (call : Call) :
    (m.perform call).Armed ↔ ¬call.Disarms m := by
  cases call with
  | removeTrap address handle => exact h.removeTrap_iff address handle
  | clearTrapsOf handle => exact h.clearTrapsOf_iff handle
  | step => exact iff_of_true h.step id
  | runUntil target =>
      exact iff_of_true (runUntil_induction (fun _ hm => hm.step) target m h) id
  | removeObserver handle => exact h.removeObserver_iff handle
  | addTrap address handle => exact h.addTrap_iff address handle
  | clearTrapsAt address => exact iff_of_true (h.clearTrapsAt address) id
  | addDataBreak kind address => exact iff_of_true (h.addDataBreak hm kind address) id
  | removeDataBreak kind address => exact iff_of_true (h.removeDataBreak hm kind address) id
  | _ => exact iff_of_true (h.congr rfl rfl rfl) id

/-- Calls none of which disarms the machine it is made to lead to an armed
machine. -/
lemma armed_performAll_of_not_disarms {calls : List Call}
    (h : ∀ before call, before ++ [call] <+: calls →
      ¬call.Disarms (initial.performAll before)) : (initial.performAll calls).Armed := by
  induction calls using List.reverseRecOn with
  | nil => exact armed_initial
  | append_singleton calls call ih =>
      have hcalls : (initial.performAll calls).Armed :=
        ih fun before call' hpre => h before call' (hpre.trans (List.prefix_append _ _))
      rw [performAll_append_singleton]
      exact (armed_perform_iff (sound_performAll calls) hcalls call).mpr
        (h calls call List.prefix_rfl)

/-- Along a sequence of calls there are numbers for handles left if there are at
its end. -/
lemma hasObserver_breakpointHandle_of_earlier {before calls : List Call}
    (h : calls.countP Call.registers < 2 ^ 32) (hpre : before <+: calls) :
    (initial.performAll before).hasObserver breakpointHandle = false :=
  hasObserver_breakpointHandle (Nat.lt_of_le_of_lt hpre.sublist.countP_le h)

/-- Calls that leave the handle of the breakpoints alone lead to an armed
machine, while there are numbers for handles left. -/
lemma armed_performAll {calls : List Call} (hleft : calls.countP Call.registers < 2 ^ 32)
    (h : ∀ call ∈ calls, call.SparesBreakTraps) : (initial.performAll calls).Armed := by
  refine armed_performAll_of_not_disarms fun before call hpre => ?_
  have hmem : call ∈ calls := hpre.subset (by simp)
  exact (h call hmem).not_disarms
    (hasObserver_breakpointHandle_of_earlier hleft ((List.prefix_append _ _).trans hpre))

/-- **When breakpoints keep their traps**: along a sequence of calls every
machine is armed exactly if none of the calls disarms the machine it is made
to. While there are numbers for handles left, only the calls that name the handle
of the breakpoints to have traps removed can do that. -/
theorem forall_armed_iff (calls : List Call) :
    ((∀ before, before <+: calls → (initial.performAll before).Armed) ↔
      ∀ before call, before ++ [call] <+: calls → ¬call.Disarms (initial.performAll before)) ∧
    (calls.countP Call.registers < 2 ^ 32 → ∀ before call, before ++ [call] <+: calls →
      call.Disarms (initial.performAll before) → ¬call.SparesBreakTraps) := by
  refine ⟨?_, fun hleft before call hpre hdisarms hspares => ?_⟩
  · constructor
    · intro harmed before call hpre
      have hbefore := harmed before ((List.prefix_append before [call]).trans hpre)
      have hafter := harmed (before ++ [call]) hpre
      rw [performAll_append_singleton] at hafter
      exact (armed_perform_iff (sound_performAll before) hbefore call).mp hafter
    · intro hspared before hpre
      exact armed_performAll_of_not_disarms fun before' call hbefore =>
        hspared before' call (hbefore.trans hpre)
  · have hpre' : before <+: calls := (List.prefix_append before [call]).trans hpre
    exact hspares.not_disarms (hasObserver_breakpointHandle_of_earlier hleft hpre') hdisarms

/-- Clearing the traps of the breakpoints leaves a breakpoint without its
trap. -/
theorem not_armed_of_cleared :
    ¬(initial.performAll [.addDataBreak .read 0x40, .clearTrapsOf breakpointHandle]).Armed :=
  fun h => absurd (h 0x40) (by decide)

end Machine

end M68HC11
