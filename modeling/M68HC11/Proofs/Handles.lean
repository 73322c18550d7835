import M68HC11.Proofs.Calls
import Mathlib.Algebra.Ring.Nat
import Mathlib.Data.List.Nodup

/-!
Handles and the observers behind them.

* `Machine.mem_entries_perform`: how a trap comes into the registry, and
  `Machine.hasObserver_perform`: while it is there its observer is not removed.
  Therefore every trap is of the breakpoints or of an observer that is
  registered (`Machine.attended_performAll`), and has been set for it
  (`Machine.exists_addTrap`);
* `Machine.grants`: the handles that calls give out, with the observers that
  they are given out for. They are numbered in order (`Machine.numbers_grants`),
  so that none is given out twice or is that of the breakpoints while there are
  numbers left (`Machine.nodup_grants`), and a handle stands for nobody else than
  the observers it was given out for (`Machine.mem_grants_of_observer?`);
* the handle of the breakpoints therefore stands for nobody while there are
  numbers left (`Machine.hasObserver_breakpointHandle`). The registration behind
  that gets it (`Machine.hasObserver_breakpointHandle_of_wrapped`).
-/

namespace M68HC11

/-- Whether a call registers an observer. -/
def Call.registers : Call → Bool
  | .addObserver _ => true
  | _ => false

/-- Whether a call registers or removes an observer. -/
def Call.touchesObservers : Call → Bool
  | .addObserver _ => true
  | .removeObserver _ => true
  | _ => false

namespace Machine

variable {m : Machine}

/-! ### Registered observers -/

/-- A registered observer is the one placed last or one registered before. -/
lemma mem_placeObserver {handle : Handle} {label : String} {observers : List (Handle × String)}
    {entry : Handle × String} (h : entry ∈ placeObserver handle label observers) :
    entry = (handle, label) ∨ entry ∈ observers := by
  induction observers with
  | nil => exact .inl (List.mem_singleton.mp h)
  | cons first rest ih =>
      rw [placeObserver] at h
      split_ifs at h with hbefore hsame
      · exact List.mem_cons.mp h
      · rcases List.mem_cons.mp h with h | h
        · exact .inl h
        · exact .inr (List.mem_cons_of_mem _ h)
      · rcases List.mem_cons.mp h with h | h
        · exact .inr (by simp [h])
        · rcases ih h with h | h
          · exact .inl h
          · exact .inr (List.mem_cons_of_mem _ h)

/-- A registered observer is listed under its handle. -/
lemma mem_observers_of_observer? {handle : Handle} {label : String}
    (h : m.observer? handle = some label) : (handle, label) ∈ m.observers := by
  obtain ⟨before, after, hsplit, -⟩ := List.lookup_eq_some_iff.mp h
  rw [hsplit]
  exact List.mem_append_right _ List.mem_cons_self

/-- A handle stands for an observer exactly if one is listed under it. -/
lemma hasObserver_iff {handle : Handle} :
    m.hasObserver handle = true ↔ ∃ entry ∈ m.observers, entry.1 = handle := by
  rw [hasObserver, observer?, List.lookup_isSome_iff]
  exact exists_congr fun entry => and_congr_right fun _ => by rw [beq_iff_eq, eq_comm]

/-- An observer that is placed is listed under its handle, and whoever was
listed before still is. -/
lemma exists_mem_placeObserver {handle other : Handle} {label : String}
    {observers : List (Handle × String)}
    (h : other = handle ∨ ∃ entry ∈ observers, entry.1 = other) :
    ∃ entry ∈ placeObserver handle label observers, entry.1 = other := by
  induction observers with
  | nil =>
      rcases h with rfl | ⟨entry, hmem, -⟩
      · exact ⟨_, List.mem_singleton_self _, rfl⟩
      · cases hmem
  | cons first rest ih =>
      rw [placeObserver]
      split_ifs with hbefore hsame
      · rcases h with rfl | ⟨entry, hmem, rfl⟩
        · exact ⟨_, List.mem_cons_self, rfl⟩
        · exact ⟨entry, List.mem_cons_of_mem _ hmem, rfl⟩
      · rcases h with rfl | ⟨entry, hmem, rfl⟩
        · exact ⟨_, List.mem_cons_self, rfl⟩
        · rcases List.mem_cons.mp hmem with rfl | hmem
          · exact ⟨_, List.mem_cons_self, hsame⟩
          · exact ⟨entry, List.mem_cons_of_mem _ hmem, rfl⟩
      · by_cases hfirst : first.1 = other
        · exact ⟨first, List.mem_cons_self, hfirst⟩
        · have hrest : other = handle ∨ ∃ entry ∈ rest, entry.1 = other := by
            rcases h with rfl | ⟨entry, hmem, hentry⟩
            · exact .inl rfl
            · have hin := (List.mem_cons.mp hmem).resolve_left fun heq => hfirst (heq ▸ hentry)
              exact .inr ⟨entry, hin, hentry⟩
          obtain ⟨entry, hmem, hentry⟩ := ih hrest
          exact ⟨entry, List.mem_cons_of_mem _ hmem, hentry⟩

/-! ### Traps and their observers -/

/-- Every trap is of the breakpoints or of a registered observer. -/
def Attended (m : Machine) : Prop :=
  ∀ trap ∈ m.core.traps.entries,
    trap.observer = breakpointHandle ∨ m.hasObserver trap.observer = true

/-- A run leaves the registry and the observers alone. -/
lemma bookkeeping_runUntil (target : UInt64) (m : Machine) :
    (m.runUntil target).machine.core.traps.entries = m.core.traps.entries ∧
      (m.runUntil target).machine.observers = m.observers ∧
        (m.runUntil target).machine.nextHandle = m.nextHandle :=
  runUntil_induction
    (P := fun m' => m'.core.traps.entries = m.core.traps.entries ∧ m'.observers = m.observers ∧
      m'.nextHandle = m.nextHandle)
    (fun m' h => by simpa using h) target m ⟨rfl, rfl, rfl⟩

/-- Calls that have nothing to do with observers leave them and the numbers of
handles alone. -/
lemma bookkeeping_perform {call : Call} (h : call.touchesObservers = false) (m : Machine) :
    (m.perform call).observers = m.observers ∧ (m.perform call).nextHandle = m.nextHandle := by
  cases call with
  | addObserver | removeObserver => cases h
  | step => simp [perform]
  | runUntil target => exact (m.bookkeeping_runUntil target).2
  | addTrap address handle =>
      rw [perform, addTrap]
      split_ifs <;> exact ⟨rfl, rfl⟩
  | _ => exact ⟨rfl, rfl⟩

/-- A trap that is in the registry after a call was there before, is of the
breakpoints, or was set by the call for a registered observer. -/
lemma mem_entries_perform (hm : m.Sound) {call : Call} {trap : Trap}
    (h : trap ∈ (m.perform call).core.traps.entries) :
    trap ∈ m.core.traps.entries ∨ trap.observer = breakpointHandle ∨
      call = .addTrap trap.address trap.observer ∧ m.hasObserver trap.observer = true := by
  cases call with
  | step => exact .inl (by simpa [perform] using h)
  | runUntil target => exact .inl ((m.bookkeeping_runUntil target).1 ▸ h)
  | removeObserver handle =>
      rw [perform, removeObserver] at h
      split_ifs at h
      · exact .inl (List.mem_filter.mp h).1
      · exact .inl h
  | addTrap address handle =>
      rw [perform, addTrap] at h
      split_ifs at h with hknown
      · rcases List.mem_append.mp h with h | h
        · exact .inl h
        · obtain rfl := List.mem_singleton.mp h
          exact .inr (.inr ⟨rfl, hknown⟩)
      · exact .inl h
  | removeTrap address handle => exact .inl (List.mem_of_mem_erase h)
  | clearTrapsAt address => exact .inl (List.mem_filter.mp h).1
  | clearTrapsOf handle => exact .inl (List.mem_filter.mp h).1
  | addDataBreak kind address =>
      by_cases hmem : address ∈ m.breakpoints.data kind
      · rw [perform, addDataBreak_of_mem hmem] at h
        exact .inl h
      · rw [perform, addDataBreak_of_notMem hmem] at h
        rcases List.mem_append.mp h with h | h
        · exact .inl h
        · obtain rfl := List.mem_singleton.mp h
          exact .inr (.inl hm.owner)
  | removeDataBreak kind address =>
      by_cases hmem : address ∈ m.breakpoints.data kind
      · rw [perform, removeDataBreak_of_mem hmem] at h
        exact .inl (List.mem_of_mem_erase h)
      · rw [perform, removeDataBreak_of_notMem hmem] at h
        exact .inl h
  | _ => exact .inl h

/-- An observer is not removed without its traps. -/
lemma hasObserver_perform {call : Call} {trap : Trap}
    (h : trap ∈ (m.perform call).core.traps.entries) (hknown : m.hasObserver trap.observer = true) :
    (m.perform call).hasObserver trap.observer = true := by
  cases htouch : call.touchesObservers with
  | false => rwa [hasObserver_iff, (bookkeeping_perform htouch m).1, ← hasObserver_iff]
  | true =>
    cases call with
    | addObserver label =>
        exact hasObserver_iff.mpr (exists_mem_placeObserver (.inr (hasObserver_iff.mp hknown)))
    | removeObserver handle =>
        rw [perform, removeObserver] at h ⊢
        split_ifs at h ⊢
        · have hother := bne_iff_ne.mp (List.mem_filter.mp h).2
          obtain ⟨entry, hmem, hentry⟩ := hasObserver_iff.mp hknown
          refine hasObserver_iff.mpr ⟨entry, List.mem_filter.mpr ⟨hmem, ?_⟩, hentry⟩
          exact decide_eq_true fun heq => hother (hentry.symm.trans heq)
        · exact hknown
    | _ => cases htouch

/-- Every call leaves the traps attended. -/
lemma Attended.perform (hm : m.Sound) (h : m.Attended) (call : Call) :
    (m.perform call).Attended := by
  intro trap htrap
  rcases mem_entries_perform hm htrap with hbefore | hbreak | ⟨-, hknown⟩
  · exact (h trap hbefore).imp_right (hasObserver_perform htrap)
  · exact .inl hbreak
  · exact .inr (hasObserver_perform htrap hknown)

/-- The traps of every machine within reach are attended. -/
lemma attended_performAll (calls : List Call) : (initial.performAll calls).Attended := by
  induction calls using List.reverseRecOn with
  | nil => exact fun trap htrap => by cases htrap
  | append_singleton calls call ih =>
      rw [performAll_append_singleton]
      exact ih.perform (sound_performAll calls) call

/-- A trap that is not of the breakpoints was set by a call for the handle that
it is registered under, which stood for an observer then. -/
lemma exists_addTrap {calls : List Call} {trap : Trap}
    (h : trap ∈ (initial.performAll calls).core.traps.entries)
    (hother : trap.observer ≠ breakpointHandle) :
    ∃ before, before ++ [.addTrap trap.address trap.observer] <+: calls ∧
      (initial.performAll before).hasObserver trap.observer = true := by
  induction calls using List.reverseRecOn with
  | nil => cases h
  | append_singleton calls call ih =>
      rw [performAll_append_singleton] at h
      rcases mem_entries_perform (sound_performAll calls) h with hbefore | hbreak | ⟨rfl, hknown⟩
      · obtain ⟨before, hpre, hknown⟩ := ih hbefore
        exact ⟨before, hpre.trans (List.prefix_append _ _), hknown⟩
      · exact absurd hbreak hother
      · exact ⟨calls, List.prefix_rfl, hknown⟩

/-! ### Handles that are given out -/

/-- The handle that a call gives out, if it registers an observer, with the
observer that it is given out for. -/
def grant? (m : Machine) : Call → Option (Handle × String)
  | .addObserver label => some ((m.addObserver label).2, label)
  | _ => none

/-- The handles that calls give out, in order. -/
def grants (m : Machine) : List Call → List (Handle × String)
  | [] => []
  | call :: calls => (m.grant? call).toList ++ (m.perform call).grants calls

/-- The last call gives out the last handle. -/
lemma grants_append_singleton (m : Machine) (calls : List Call) (call : Call) :
    m.grants (calls ++ [call]) = m.grants calls ++ ((m.performAll calls).grant? call).toList := by
  induction calls generalizing m with
  | nil => simp [grants]
  | cons first calls ih =>
      rw [List.cons_append, grants, ih, grants, List.append_assoc]
      rfl

/-- Earlier calls have given out no other handles. -/
lemma prefix_grants {calls calls' : List Call} (h : calls <+: calls') (m : Machine) :
    m.grants calls <+: m.grants calls' := by
  obtain ⟨rest, rfl⟩ := h
  induction rest using List.reverseRecOn with
  | nil => simp
  | append_singleton rest call ih =>
      rw [← List.append_assoc, grants_append_singleton]
      exact ih.trans (List.prefix_append _ _)

/-- The number of the next handle moves on with each registration. -/
lemma nextHandle_perform (m : Machine) (call : Call) :
    (m.perform call).nextHandle =
      if call.registers = true then m.nextHandle + 1 else m.nextHandle := by
  cases htouch : call.touchesObservers with
  | false =>
    have hregisters : ¬call.registers = true := by
      cases call <;> simp_all [Call.registers, Call.touchesObservers]
    rw [if_neg hregisters, (bookkeeping_perform htouch m).2]
  | true =>
    cases call with
    | addObserver label => rfl
    | removeObserver handle =>
        rw [perform, removeObserver]
        split_ifs <;> simp_all [Call.registers]
    | _ => cases htouch

/-- The next handle is numbered by the registrations so far, in 32 bits. -/
lemma nextHandle_performAll (calls : List Call) :
    (initial.performAll calls).nextHandle = UInt32.ofNat (1 + calls.countP Call.registers) := by
  induction calls using List.reverseRecOn with
  | nil => rfl
  | append_singleton calls call ih =>
      rw [performAll_append_singleton, nextHandle_perform, ih, List.countP_append]
      cases hregisters : call.registers with
      | true =>
          rw [if_pos rfl, List.countP_singleton, if_pos hregisters, ← Nat.add_assoc,
            UInt32.ofNat_add (1 + _) 1]
          rfl
      | false =>
          rw [if_neg Bool.false_ne_true, List.countP_singleton, hregisters,
            if_neg Bool.false_ne_true, Nat.add_zero]

/-- The handles given out are numbered from one on, in 32 bits. -/
lemma numbers_grants (calls : List Call) :
    (initial.grants calls).map (·.1.number) =
      (List.range' 1 (calls.countP Call.registers)).map UInt32.ofNat := by
  induction calls using List.reverseRecOn with
  | nil => rfl
  | append_singleton calls call ih =>
      rw [grants_append_singleton, List.map_append, ih, List.countP_append]
      cases call with
      | addObserver label =>
          have hone : [Call.addObserver label].countP Call.registers = 1 := rfl
          rw [hone, List.range'_1_concat, List.map_append, List.map_singleton,
            ← nextHandle_performAll]
          rfl
      | _ => exact List.append_nil _

/-- While there are numbers left no handle is given out twice, and none is that
of the breakpoints. -/
lemma nodup_grants {calls : List Call} (h : calls.countP Call.registers < 2 ^ 32) :
    (breakpointHandle :: (initial.grants calls).map (·.1)).Nodup := by
  have hnumbers : (breakpointHandle :: (initial.grants calls).map (·.1)).map (·.number) =
      (List.range' 0 (calls.countP Call.registers + 1)).map UInt32.ofNat := by
    rw [List.range'_succ, List.map_cons, List.map_cons, ← numbers_grants, List.map_map]
    rfl
  refine List.Nodup.of_map (·.number) ?_
  rw [hnumbers]
  refine List.Nodup.map_on (fun i hi j hj hij => ?_) List.nodup_range'
  rw [List.mem_range'_1] at hi hj
  have hsame := congrArg UInt32.toNat hij
  rw [UInt32.toNat_ofNat', UInt32.toNat_ofNat'] at hsame
  omega

/-- An observer that is listed after a call was listed before, or the call has
given out a handle for it. -/
lemma mem_observers_perform {call : Call} {entry : Handle × String}
    (h : entry ∈ (m.perform call).observers) :
    entry ∈ m.observers ∨ m.grant? call = some entry := by
  cases htouch : call.touchesObservers with
  | false => exact .inl ((bookkeeping_perform htouch m).1 ▸ h)
  | true =>
    cases call with
    | addObserver label =>
        exact (mem_placeObserver h).symm.imp_right fun heq => congrArg some heq.symm
    | removeObserver handle =>
        rw [perform, removeObserver] at h
        split_ifs at h
        · exact .inl (List.mem_filter.mp h).1
        · exact .inl h
    | _ => cases htouch

/-- Whoever is listed has been given the handle. -/
lemma mem_grants_of_mem_observers {calls : List Call} {entry : Handle × String}
    (h : entry ∈ (initial.performAll calls).observers) : entry ∈ initial.grants calls := by
  induction calls using List.reverseRecOn with
  | nil => cases h
  | append_singleton calls call ih =>
      rw [performAll_append_singleton] at h
      rw [grants_append_singleton]
      rcases mem_observers_perform h with hbefore | hgrant
      · exact List.mem_append_left _ (ih hbefore)
      · exact List.mem_append_right _ (Option.mem_toList.mpr hgrant)

/-- A handle stands for nobody else than the observer that it was given out
for. -/
lemma mem_grants_of_observer? {calls : List Call} {handle : Handle} {label : String}
    (h : (initial.performAll calls).observer? handle = some label) :
    (handle, label) ∈ initial.grants calls :=
  mem_grants_of_mem_observers (mem_observers_of_observer? h)

/-- While there are numbers left the handle of the breakpoints stands for
nobody. -/
lemma hasObserver_breakpointHandle {calls : List Call}
    (h : calls.countP Call.registers < 2 ^ 32) :
    (initial.performAll calls).hasObserver breakpointHandle = false := by
  refine Bool.eq_false_iff.mpr fun hknown => ?_
  obtain ⟨label, hlabel⟩ := Option.isSome_iff_exists.mp hknown
  have hgrant := List.mem_map_of_mem (f := Prod.fst) (mem_grants_of_observer? hlabel)
  exact (List.nodup_cons.mp (nodup_grants h)).1 hgrant

/-- The registration behind the last number gets the handle of the
breakpoints. -/
lemma hasObserver_breakpointHandle_of_wrapped {calls : List Call}
    (h : calls.countP Call.registers = 2 ^ 32 - 1) (label : String) :
    (initial.performAll (calls ++ [.addObserver label])).hasObserver breakpointHandle = true := by
  have hnext : (initial.performAll calls).nextHandle = 0 := by
    rw [nextHandle_performAll, h]
    rfl
  rw [performAll_append_singleton, perform, addObserver, hnext]
  exact hasObserver_iff.mpr (exists_mem_placeObserver (.inl rfl))

end Machine

end M68HC11
