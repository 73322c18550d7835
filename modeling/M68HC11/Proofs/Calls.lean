import M68HC11.Proofs.Step
import M68HC11.Run
import Mathlib.Data.List.Induction

/-!
The calls that a machine answers, and the machines that calls lead to.

* `Call` has a constructor for every call from outside; `Machine.perform`
  answers one call and `Machine.performAll` a sequence of them, so that the
  machines within reach are those that `performAll` makes of
  `Machine.initial`;
* `Machine.Sound` is what all of them have in common: the breakpoints go by
  their own handle, and no hit waits between calls;
* `Machine.Sound.perform` is its step, one case for each call, and
  `Machine.sound_performAll` its run.
-/

namespace M68HC11

/-! ### Calls -/

/-- A call to a machine from outside. -/
inductive Call
  /-- To execute one instruction. -/
  | step
  /-- To execute instructions until the cycle counter reaches the target or a
  breakpoint halts the machine. -/
  | runUntil (target : UInt64)
  /-- To reset the registers. -/
  | reset
  /-- To replace the registers. -/
  | putRegisters (r : Registers)
  /-- To write bytes to consecutive addresses. -/
  | writeBlock (address : UInt16) (bytes : List UInt8)
  /-- To register an observer of data. -/
  | addObserver (label : String)
  /-- To remove an observer with its traps. -/
  | removeObserver (handle : Handle)
  /-- To trap an address for an observer. -/
  | addTrap (address : UInt16) (handle : Handle)
  /-- To remove one trap. -/
  | removeTrap (address : UInt16) (handle : Handle)
  /-- To remove all traps at an address. -/
  | clearTrapsAt (address : UInt16)
  /-- To remove all traps of an observer. -/
  | clearTrapsOf (handle : Handle)
  /-- To set a breakpoint on execution. -/
  | addExecBreak (address : UInt16)
  /-- To remove a breakpoint on execution. -/
  | removeExecBreak (address : UInt16)
  /-- To set a breakpoint on data. -/
  | addDataBreak (kind : AccessKind) (address : UInt16)
  /-- To remove a breakpoint on data. -/
  | removeDataBreak (kind : AccessKind) (address : UInt16)
  /-- To name the listener for halts. -/
  | setListener (label : String)
  /-- To register a display. -/
  | addDisplay (name : String)
  /-- To remove a display. -/
  | removeDisplay (name : String)
  /-- To refresh the displays. -/
  | refreshDisplays
  /-- To take the journal. -/
  | takeJournal
  deriving DecidableEq

namespace Machine

/-- The machine after a call. -/
def perform (m : Machine) : Call → Machine
  | .step => m.step.1
  | .runUntil target => (m.runUntil target).machine
  | .reset => m.reset
  | .putRegisters r => m.putRegisters r
  | .writeBlock address bytes => m.writeBlock address bytes
  | .addObserver label => (m.addObserver label).1
  | .removeObserver handle => m.removeObserver handle
  | .addTrap address handle => m.addTrap address handle
  | .removeTrap address handle => m.removeTrap address handle
  | .clearTrapsAt address => m.clearTrapsAt address
  | .clearTrapsOf handle => m.clearTrapsOf handle
  | .addExecBreak address => m.addExecBreak address
  | .removeExecBreak address => m.removeExecBreak address
  | .addDataBreak kind address => m.addDataBreak kind address
  | .removeDataBreak kind address => m.removeDataBreak kind address
  | .setListener label => m.setListener label
  | .addDisplay name => m.addDisplay name
  | .removeDisplay name => m.removeDisplay name
  | .refreshDisplays => m.refreshDisplays
  | .takeJournal => m.takeJournal

/-- The machine after a sequence of calls. -/
def performAll (m : Machine) (calls : List Call) : Machine := calls.foldl perform m

@[simp] lemma performAll_nil (m : Machine) : m.performAll [] = m := rfl

/-- Calls are answered one after the other. -/
lemma performAll_append (m : Machine) (calls calls' : List Call) :
    m.performAll (calls ++ calls') = (m.performAll calls).performAll calls' :=
  List.foldl_append

@[simp] lemma performAll_append_singleton (m : Machine) (calls : List Call) (call : Call) :
    m.performAll (calls ++ [call]) = (m.performAll calls).perform call :=
  m.performAll_append calls [call]

/-- The calls that place an instruction which reads the byte at address 0x40,
and lead the program counter there. -/
def readProgram : List Call :=
  [.writeBlock 0x20 [0x96, 0x40], .putRegisters { initial.registers with pc := 0x20 }]

/-! ### Breakpoints on data -/

section

variable {m : Machine} {kind : AccessKind} {address : UInt16}

/-- A breakpoint on data that is set already is not set again. -/
lemma addDataBreak_of_mem (h : address ∈ m.breakpoints.data kind) :
    m.addDataBreak kind address = m := by
  rw [addDataBreak, Breakpoints.addData, if_pos (AddressSet.contains_iff.mpr h)]

/-- A new breakpoint on data comes with a trap. -/
lemma addDataBreak_of_notMem (h : address ∉ m.breakpoints.data kind) :
    m.addDataBreak kind address =
      { m with
        breakpoints :=
          m.breakpoints.putData kind ((m.breakpoints.data kind).insert address)
        core := { m.core with traps := m.core.traps.add address m.breakpoints.owner } } := by
  rw [addDataBreak, Breakpoints.addData, if_neg (mt AddressSet.contains_iff.mp h)]

/-- A breakpoint on data that is removed takes one trap with it. -/
lemma removeDataBreak_of_mem (h : address ∈ m.breakpoints.data kind) :
    m.removeDataBreak kind address =
      { m with
        breakpoints :=
          m.breakpoints.putData kind ((m.breakpoints.data kind).erase address)
        core := { m.core with traps := m.core.traps.remove address m.breakpoints.owner } } := by
  rw [removeDataBreak, Breakpoints.removeData, if_pos (AddressSet.contains_iff.mpr h)]

/-- A breakpoint on data that is not set is not removed. -/
lemma removeDataBreak_of_notMem (h : address ∉ m.breakpoints.data kind) :
    m.removeDataBreak kind address = m := by
  rw [removeDataBreak, Breakpoints.removeData, if_neg (mt AddressSet.contains_iff.mp h)]

end

/-! ### Runs -/

/-- What a step keeps, a run keeps. -/
lemma runWithin_induction {P : Machine → Prop} (hstep : ∀ m, P m → P m.step.1) (target : UInt64)
    (limit steps : Nat) (m : Machine) (h : P m) : P (runWithin target limit steps m).machine := by
  induction limit generalizing steps m with
  | zero => exact h
  | succ limit ih =>
      have hnext : P m.step.1 := hstep m h
      rw [runWithin_succ]
      by_cases hlt : m.cycles < target
      · rw [if_pos hlt]
        cases m.step.2.breakpoint? with
        | some address => exact hnext
        | none => exact ih (steps + 1) m.step.1 hnext
      · rw [if_neg hlt]
        exact h

/-- What a step keeps, a run to a target keeps. -/
lemma runUntil_induction {P : Machine → Prop} (hstep : ∀ m, P m → P m.step.1) (target : UInt64)
    (m : Machine) (h : P m) : P (m.runUntil target).machine :=
  runWithin_induction hstep target stepLimit 0 m h

/-! ### What all machines within reach have in common -/

/-- The bookkeeping of breakpoints and hits is in order. -/
structure Sound (m : Machine) : Prop where
  /-- The breakpoints go by their own handle. -/
  owner : m.breakpoints.owner = breakpointHandle
  /-- No hit waits for delivery. -/
  delivered : m.core.traps.hits = []

/-- A machine after a reset is in order. -/
lemma sound_initial : initial.Sound where
  owner := rfl
  delivered := rfl

namespace Sound

variable {m : Machine}

/-- A step keeps the bookkeeping in order. -/
lemma step (h : m.Sound) : m.step.1.Sound := by
  obtain ⟨state, hstate⟩ := m.breakpoints_step_eq
  exact ⟨by rw [hstate]; exact h.owner, by rw [core_step]⟩

/-- Setting a breakpoint on data keeps the bookkeeping in order. -/
lemma addDataBreak (h : m.Sound) (kind : AccessKind) (address : UInt16) :
    (m.addDataBreak kind address).Sound := by
  by_cases hmem : address ∈ m.breakpoints.data kind
  · rwa [addDataBreak_of_mem hmem]
  · rw [addDataBreak_of_notMem hmem]
    exact ⟨by simpa using h.owner, h.delivered⟩

/-- Removing a breakpoint on data keeps the bookkeeping in order. -/
lemma removeDataBreak (h : m.Sound) (kind : AccessKind) (address : UInt16) :
    (m.removeDataBreak kind address).Sound := by
  by_cases hmem : address ∈ m.breakpoints.data kind
  · rw [removeDataBreak_of_mem hmem]
    exact ⟨by simpa using h.owner, h.delivered⟩
  · rwa [removeDataBreak_of_notMem hmem]

/-- Every call keeps the bookkeeping in order. -/
lemma perform (h : m.Sound) (call : Call) : (m.perform call).Sound := by
  cases call with
  | step => exact h.step
  | runUntil target => exact runUntil_induction (fun _ hm => hm.step) target m h
  | removeObserver handle =>
      rw [Machine.perform, removeObserver]
      split_ifs
      · exact ⟨h.owner, h.delivered⟩
      · exact h
  | addTrap address handle =>
      rw [Machine.perform, addTrap]
      split_ifs
      · exact ⟨h.owner, h.delivered⟩
      · exact h
  | addDataBreak kind address => exact h.addDataBreak kind address
  | removeDataBreak kind address => exact h.removeDataBreak kind address
  | _ => exact ⟨h.owner, h.delivered⟩

end Sound

/-- The bookkeeping of every machine within reach is in order. -/
lemma sound_performAll (calls : List Call) : (initial.performAll calls).Sound := by
  induction calls using List.reverseRecOn with
  | nil => exact sound_initial
  | append_singleton calls call ih =>
      rw [performAll_append_singleton]
      exact ih.perform call

end Machine

end M68HC11
