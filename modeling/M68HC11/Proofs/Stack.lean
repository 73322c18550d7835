import M68HC11.Proofs.Accesses
import Mathlib.Data.List.Induction

/-!
The stack: what is pushed last is pulled first.

The stack lies in memory and grows towards address zero, around the end of the
address space. A byte that is pushed goes where the stack pointer points, and
65536 bytes have room before the first is overwritten.

* `Memory.writeDown` writes bytes to an address and the ones below;
  `Memory.Stacked` says that they stand there (`Memory.stacked_writeDown`), and
  `Memory.read_writeDown` that no others changed;
* `Push` is a byte, a word or the call of a subroutine, `Pull` what undoes it;
  `Processor.push` and `Processor.pull` do one of them, `Processor.pushAll` and
  `Processor.pullAll` one after the other;
* `Processor.memory_pushAll` and `Processor.pullAll_of_stacked`: what many
  pushes leave in memory, and what many pulls bring back from there. The
  invariant between them is that the bytes pushed are stacked.
  `Processor.pullAll_pushAll` puts the two together, and subroutines inside
  each other and the frame of an interrupt are cases of it;
* `Instruction.push?` and `Operation.pull?` are the pushes and pulls that
  instructions come to;
* `Core.stack_lastInFirstOut` (**the stack is last-in first-out**).
-/

namespace M68HC11

/-! ### Bytes below an address -/

/-- The cells below an address are different, as far as the address space
goes. -/
lemma eq_of_sub_ofNat_eq {base : UInt16} {i j : Nat} (hi : i < 65536) (hj : j < 65536)
    (h : base - UInt16.ofNat i = base - UInt16.ofNat j) : i = j := by
  have hnat := congrArg UInt16.toNat ((UInt16.sub_right_inj base).mp h)
  rwa [UInt16.toNat_ofNat', UInt16.toNat_ofNat', Nat.mod_eq_of_lt hi, Nat.mod_eq_of_lt hj] at hnat

/-- Going down twice. -/
lemma sub_ofNat_add (base : UInt16) (i j : Nat) :
    base - UInt16.ofNat (i + j) = base - UInt16.ofNat i - UInt16.ofNat j := by
  rw [UInt16.ofNat_add]
  grind

namespace Memory

/-- Writes bytes to an address and the ones below, around the end of the
address space. -/
def writeDown (m : Memory) (base : UInt16) : List UInt8 → Memory
  | [] => m
  | b :: bs => (m.write base b).writeDown (base - 1) bs

/-- Whether bytes stand at an address and the ones below. -/
def Stacked (m : Memory) (base : UInt16) (bytes : List UInt8) : Prop :=
  ∀ k (h : k < bytes.length), m.read (base - UInt16.ofNat k) = bytes[k]

/-- Writing bytes downwards in two parts. -/
lemma writeDown_append (m : Memory) (base : UInt16) (xs ys : List UInt8) :
    m.writeDown base (xs ++ ys) =
      (m.writeDown base xs).writeDown (base - UInt16.ofNat xs.length) ys := by
  induction xs generalizing m base with
  | nil => simp [writeDown]
  | cons x xs ih =>
      rw [List.cons_append, writeDown, ih, writeDown, List.length_cons, Nat.add_comm,
        sub_ofNat_add]
      rfl

/-- Cells that are not written stay as they are. -/
lemma read_writeDown (m : Memory) {base address : UInt16} {bytes : List UInt8}
    (h : ∀ k < bytes.length, address ≠ base - UInt16.ofNat k) :
    (m.writeDown base bytes).read address = m.read address := by
  induction bytes generalizing m base with
  | nil => rfl
  | cons b bytes ih =>
      have hbase : address ≠ base := by
        have hzero := h 0 (Nat.zero_lt_succ _)
        rwa [show UInt16.ofNat 0 = 0 from rfl, UInt16.sub_zero] at hzero
      rw [writeDown, ih, read_write, if_neg hbase]
      intro k hk
      have hsucc := h (1 + k) (by rw [List.length_cons]; omega)
      rwa [sub_ofNat_add] at hsucc

/-- Bytes that are written downwards stand there, if there are no more of them
than addresses. -/
lemma stacked_writeDown (m : Memory) (base : UInt16) {bytes : List UInt8}
    (h : bytes.length ≤ 65536) : (m.writeDown base bytes).Stacked base bytes := by
  induction bytes generalizing m base with
  | nil => exact fun k hk => absurd hk (Nat.not_lt_zero k)
  | cons b bytes ih =>
      rw [List.length_cons] at h
      intro k hk
      cases k with
      | zero =>
          -- The bytes below come around to the first cell no sooner than after
          -- 65536 of them.
          have hbelow : ∀ j < bytes.length, base - UInt16.ofNat 0 ≠ base - 1 - UInt16.ofNat j := by
            intro j hj heq
            rw [show (1 : UInt16) = UInt16.ofNat 1 from rfl, ← sub_ofNat_add] at heq
            have := eq_of_sub_ofNat_eq (by omega) (by omega) heq
            omega
          rw [writeDown, read_writeDown _ hbelow]
          simp
      | succ k =>
          have hcell : base - UInt16.ofNat (k + 1) = base - 1 - UInt16.ofNat k := by
            rw [Nat.add_comm, sub_ofNat_add]
            rfl
          rw [hcell]
          exact ih (m.write base b) (base - 1) (by omega) k (Nat.lt_of_succ_lt_succ hk)

variable {m : Memory} {base : UInt16} {xs ys : List UInt8}

/-- The bytes that were stacked first. -/
lemma Stacked.left (h : m.Stacked base (xs ++ ys)) : m.Stacked base xs := by
  intro k hk
  rw [h k (by rw [List.length_append]; omega), List.getElem_append_left hk]

/-- The bytes that were stacked last. -/
lemma Stacked.right (h : m.Stacked base (xs ++ ys)) :
    m.Stacked (base - UInt16.ofNat xs.length) ys := by
  intro k hk
  rw [← sub_ofNat_add, h (xs.length + k) (by rw [List.length_append]; omega),
    List.getElem_append_right (Nat.le_add_right ..)]
  simp only [Nat.add_sub_cancel_left]

end Memory

/-! ### Pushing and pulling -/

/-- What goes onto the stack and comes from it. -/
inductive StackItem
  | byte (value : UInt8)
  | word (value : UInt16)
  deriving DecidableEq, Repr

/-- Something done that pushes. -/
inductive Push
  /-- To push a byte. -/
  | byte (value : UInt8)
  /-- To push a word. -/
  | word (value : UInt16)
  /-- To call a subroutine, where the instruction behind the call is at
  `returnTo`. -/
  | call (returnTo target : UInt16)
  deriving DecidableEq, Repr

namespace Push

/-- What is pushed. -/
def item : Push → StackItem
  | byte value => .byte value
  | word value => .word value
  | call returnTo _ => .word returnTo

/-- The bytes that are pushed, in order. -/
def bytes : Push → List UInt8
  | byte value => [value]
  | word value => [Word.low value, Word.high value]
  | call returnTo _ => [Word.low returnTo, Word.high returnTo]

/-- How many bytes are pushed. -/
def width (x : Push) : Nat := x.bytes.length

/-- The effect of pushing. -/
def effect (r : Registers) : Push → Effect
  | byte value => Effect.pushByte r value
  | word value => Effect.pushWord r value
  | call returnTo target => callEffect { r with pc := returnTo } target

/-- The bytes that some pushes push together. -/
def allBytes (xs : List Push) : List UInt8 := xs.flatMap bytes

@[simp] lemma allBytes_nil : allBytes [] = [] := rfl

@[simp] lemma allBytes_cons (x : Push) (xs : List Push) :
    allBytes (x :: xs) = x.bytes ++ allBytes xs := List.flatMap_cons

@[simp] lemma allBytes_append (xs ys : List Push) :
    allBytes (xs ++ ys) = allBytes xs ++ allBytes ys := List.flatMap_append

end Push

/-- Something done that pulls. -/
inductive Pull
  /-- To pull a byte. -/
  | byte
  /-- To pull a word. -/
  | word
  /-- To return from a subroutine. -/
  | subroutine
  deriving DecidableEq, Repr

/-- How many bytes are pulled. -/
def Pull.width : Pull → Nat
  | byte => 1
  | word | subroutine => 2

/-- The registers with another stack pointer and another program counter. -/
def Registers.relocate (r : Registers) (sp pc : UInt16) : Registers := { r with sp, pc }

namespace Processor

/-- The processor after an effect. -/
def perform (p : Processor) (e : Effect) : Processor := ⟨e.registers, e.commit p.memory⟩

/-- Pushes. -/
def push (p : Processor) (x : Push) : Processor := p.perform (x.effect p.registers)

/-- Pushes one thing after the other. -/
def pushAll (p : Processor) (xs : List Push) : Processor := xs.foldl push p

/-- Pulls. What a return has pulled is in the program counter. -/
def pull (p : Processor) : Pull → StackItem × Processor
  | .byte =>
    (.byte (pullByte p.registers p.memory).value, { p with registers := p.registers.drop 1 })
  | .word =>
    (.word (pullWord p.registers p.memory).value, { p with registers := p.registers.drop 2 })
  | .subroutine =>
    let r := { p.registers.drop 2 with pc := (pullWord p.registers p.memory).value }
    (.word r.pc, { p with registers := r })

/-- Pulls one thing after the other. -/
def pullAll (p : Processor) : List Pull → List StackItem × Processor
  | [] => ([], p)
  | y :: ys =>
    let first := p.pull y
    let rest := first.2.pullAll ys
    (first.1 :: rest.1, rest.2)

end Processor

/-! ### What pushes leave in memory -/

namespace Processor

variable {p : Processor}

/-- A push moves the stack pointer by the bytes pushed and no other register
but the program counter. -/
lemma registers_push (p : Processor) (x : Push) :
    ∃ pc, (p.push x).registers =
      p.registers.relocate (p.registers.sp - UInt16.ofNat x.width) pc := by
  cases x <;> exact ⟨_, rfl⟩

lemma sp_push (p : Processor) (x : Push) :
    (p.push x).registers.sp = p.registers.sp - UInt16.ofNat x.width := by
  cases x <;> rfl

/-- A push writes its bytes downwards. -/
lemma memory_push (p : Processor) (x : Push) :
    (p.push x).memory = p.memory.writeDown p.registers.sp x.bytes := by
  cases x <;> rfl

/-- Pushes move the stack pointer by all bytes pushed and no other register
but the program counter. -/
lemma registers_pushAll (p : Processor) (xs : List Push) :
    ∃ pc, (p.pushAll xs).registers =
      p.registers.relocate (p.registers.sp - UInt16.ofNat (Push.allBytes xs).length) pc := by
  induction xs generalizing p with
  | nil => exact ⟨p.registers.pc, by simp [pushAll, Registers.relocate]⟩
  | cons x xs ih =>
      obtain ⟨pc, hpush⟩ := p.registers_push x
      obtain ⟨pc', hrest⟩ := ih (p.push x)
      refine ⟨pc', hrest.trans ?_⟩
      rw [hpush, Push.allBytes_cons, List.length_append, sub_ofNat_add]
      rfl

lemma sp_pushAll (p : Processor) (xs : List Push) :
    (p.pushAll xs).registers.sp =
      p.registers.sp - UInt16.ofNat (Push.allBytes xs).length := by
  obtain ⟨pc, hpushed⟩ := p.registers_pushAll xs
  rw [hpushed]
  rfl

/-- Pushes write all their bytes downwards. -/
lemma memory_pushAll (p : Processor) (xs : List Push) :
    (p.pushAll xs).memory = p.memory.writeDown p.registers.sp (Push.allBytes xs) := by
  induction xs generalizing p with
  | nil => rfl
  | cons x xs ih =>
      rw [Push.allBytes_cons, Memory.writeDown_append, ← memory_push, ← Push.width, ← sp_push]
      exact ih (p.push x)

/-- What was pushed is stacked from the stack pointer on downwards, as far as
the address space goes. -/
lemma stacked_pushAll (p : Processor) {xs : List Push}
    (h : (Push.allBytes xs).length ≤ 65536) :
    (p.pushAll xs).memory.Stacked p.registers.sp (Push.allBytes xs) := by
  rw [memory_pushAll]
  exact Memory.stacked_writeDown _ _ h

/-! ### What pulls bring back -/

/-- A pull changes no memory, and no registers but the stack pointer and the
program counter. -/
lemma frame_pull (p : Processor) (y : Pull) :
    ∃ sp pc, (p.pull y).2 = ⟨p.registers.relocate sp pc, p.memory⟩ := by
  cases y <;> exact ⟨_, _, rfl⟩

/-- Pulls change no memory, and no registers but the stack pointer and the
program counter. -/
lemma frame_pullAll (p : Processor) (ys : List Pull) :
    ∃ sp pc, (p.pullAll ys).2 = ⟨p.registers.relocate sp pc, p.memory⟩ := by
  induction ys generalizing p with
  | nil => exact ⟨p.registers.sp, p.registers.pc, rfl⟩
  | cons y ys ih =>
      obtain ⟨sp, pc, hpull⟩ := p.frame_pull y
      obtain ⟨sp', pc', hrest⟩ := ih (p.pull y).2
      refine ⟨sp', pc', hrest.trans ?_⟩
      rw [hpull]
      rfl

/-- Pulling a word brings back the one that is stacked there. -/
lemma pullWord_of_stacked {r : Registers} {m : Memory} {top value : UInt16}
    (hstacked : m.Stacked top [Word.low value, Word.high value]) (hsp : r.sp = top - 2) :
    (pullWord r m).value = value ∧ r.sp + 2 = top := by
  have hlow : m.read (r.sp + 1 + 1) = Word.low value := by
    rw [← show m.read (top - 0) = Word.low value from hstacked 0 (by simp), hsp]
    congr 1
    grind
  have hhigh : m.read (r.sp + 1) = Word.high value := by
    rw [← show m.read (top - 1) = Word.high value from hstacked 1 (by simp), hsp]
    congr 1
    grind
  refine ⟨?_, by rw [hsp, UInt16.sub_add_cancel]⟩
  rw [pullWord, Memory.readWord, hlow, hhigh, Word.join_high_low]

/-- A pull of the right width brings back what was pushed last. -/
lemma pull_of_stacked {top : UInt16} {x : Push} {y : Pull} (hwidth : y.width = x.width)
    (hstacked : p.memory.Stacked top x.bytes)
    (hsp : p.registers.sp = top - UInt16.ofNat x.width) :
    (p.pull y).1 = x.item ∧ (p.pull y).2.registers.sp = top := by
  cases x with
  | byte value =>
      cases y with
      | byte =>
          have hsp' : p.registers.sp + 1 = top := by
            rw [hsp]
            exact UInt16.sub_add_cancel top 1
          have hread : p.memory.read (top - 0) = value := hstacked 0 Nat.zero_lt_one
          rw [UInt16.sub_zero, ← hsp'] at hread
          exact ⟨congrArg StackItem.byte hread, hsp'⟩
      | _ => cases hwidth
  | word value | call value target =>
      obtain ⟨hvalue, hsp'⟩ := pullWord_of_stacked hstacked hsp
      cases y with
      | byte => cases hwidth
      | _ => exact ⟨congrArg StackItem.word hvalue, hsp'⟩

/-- Pulls of the right widths bring back what is stacked, the last first. The
induction takes off the last push, which the first pull undoes. -/
lemma pullAll_of_stacked {base : UInt16} {xs : List Push} {ys : List Pull}
    (hwidths : ys.map Pull.width = xs.reverse.map Push.width)
    (hstacked : p.memory.Stacked base (Push.allBytes xs))
    (hsp : p.registers.sp = base - UInt16.ofNat (Push.allBytes xs).length) :
    (p.pullAll ys).1 = xs.reverse.map Push.item ∧ (p.pullAll ys).2.registers.sp = base := by
  induction xs using List.reverseRecOn generalizing p ys with
  | nil =>
      obtain rfl := List.map_eq_nil_iff.mp hwidths
      exact ⟨rfl, hsp.trans (UInt16.sub_zero base)⟩
  | append_singleton xs x ih =>
      rw [List.reverse_append, List.reverse_singleton, List.singleton_append,
        List.map_cons] at hwidths ⊢
      obtain ⟨y, ys, rfl, hwidth, hwidths⟩ := List.map_eq_cons_iff.mp hwidths
      rw [Push.allBytes_append, Push.allBytes_cons, Push.allBytes_nil, List.append_nil]
        at hstacked hsp
      rw [List.length_append, sub_ofNat_add] at hsp
      obtain ⟨hitem, htop⟩ := pull_of_stacked hwidth hstacked.right hsp
      obtain ⟨sp, pc, hpull⟩ := p.frame_pull y
      have hmemory : (p.pull y).2.memory = p.memory := by rw [hpull]
      obtain ⟨hitems, hbase⟩ := ih hwidths (hmemory ▸ hstacked.left) htop
      exact ⟨congrArg₂ List.cons hitem hitems, hbase⟩

/-- Pulls of the right widths undo pushes, as far as the address space goes:
what was pushed comes back in reverse, and the registers are as they were but
for the program counter. -/
lemma pullAll_pushAll (p : Processor) {xs : List Push} {ys : List Pull}
    (hlength : (Push.allBytes xs).length ≤ 65536)
    (hwidths : ys.map Pull.width = xs.reverse.map Push.width) :
    ((p.pushAll xs).pullAll ys).1 = xs.reverse.map Push.item ∧
      ∃ pc, ((p.pushAll xs).pullAll ys).2 =
        ⟨{ p.registers with pc }, (p.pushAll xs).memory⟩ := by
  obtain ⟨hitems, hbase⟩ :=
    pullAll_of_stacked hwidths (p.stacked_pushAll hlength) (p.sp_pushAll xs)
  obtain ⟨pc, hpushed⟩ := p.registers_pushAll xs
  obtain ⟨sp', pc', hpulled⟩ := (p.pushAll xs).frame_pullAll ys
  refine ⟨hitems, pc', ?_⟩
  rw [hpulled] at hbase ⊢
  rw [hpushed, show sp' = p.registers.sp from hbase]
  rfl

/-- A word that was pushed last can be read right above the stack pointer. -/
lemma readWord_push (p : Processor) {x : Push} {w : UInt16} (h : x.item = .word w) :
    (p.push x).memory.readWord ((p.push x).registers.sp + 1) = w := by
  have hbytes : x.bytes = [Word.low w, Word.high w] ∧ x.width = 2 := by
    cases x with
    | byte => cases h
    | word | call =>
        obtain rfl := StackItem.word.inj h
        exact ⟨rfl, rfl⟩
  have hstacked : (p.push x).memory.Stacked p.registers.sp [Word.low w, Word.high w] := by
    rw [memory_push, hbytes.1]
    exact Memory.stacked_writeDown _ _ (by simp)
  have hsp : (p.push x).registers.sp = p.registers.sp - 2 := by
    rw [sp_push, hbytes.2]
    rfl
  exact (pullWord_of_stacked hstacked hsp).1

end Processor

/-! ### Calls and returns -/

namespace Push

/-- The pushes of some calls inside each other, from where they return to and
where they lead. -/
def nested (calls : List (UInt16 × UInt16)) : List Push :=
  calls.map fun call => .call call.1 call.2

lemma length_allBytes_nested (calls : List (UInt16 × UInt16)) :
    (allBytes (nested calls)).length = 2 * calls.length := by
  induction calls with
  | nil => rfl
  | cons call calls ih =>
      rw [nested, List.map_cons, allBytes_cons, List.length_append, ← nested, ih,
        List.length_cons, Nat.mul_succ, Nat.add_comm]
      rfl

lemma map_width_nested (calls : List (UInt16 × UInt16)) :
    (nested calls).map width = List.replicate calls.length 2 := by
  have hwidth : width ∘ (fun call : UInt16 × UInt16 => .call call.1 call.2) = fun _ => 2 := rfl
  rw [nested, List.map_map, hwidth, List.map_const']

end Push

/-- As many returns as calls lead back through the addresses behind the calls,
the last first. -/
lemma Processor.pullAll_nested (p : Processor) {calls : List (UInt16 × UInt16)}
    (hlength : calls.length ≤ 32768) :
    let inside := p.pushAll (Push.nested calls)
    let back := inside.pullAll (List.replicate calls.length .subroutine)
    back.1 = calls.reverse.map (fun call => .word call.1) ∧
      ∃ pc, back.2 = ⟨{ p.registers with pc }, inside.memory⟩ := by
  intro inside back
  have hbytes : (Push.allBytes (Push.nested calls)).length ≤ 65536 := by
    rw [Push.length_allBytes_nested]
    omega
  have hwidths : (List.replicate calls.length Pull.subroutine).map Pull.width =
      (Push.nested calls).reverse.map Push.width := by
    rw [List.map_replicate, List.map_reverse, Push.map_width_nested, List.reverse_replicate]
    rfl
  have hback := p.pullAll_pushAll hbytes hwidths
  rw [Push.nested, ← List.map_reverse, List.map_map] at hback
  exact hback

/-! ### The frame of an interrupt -/

/-- The pushes that save registers for an interrupt. -/
def Push.frame (r : Registers) : List Push :=
  [.word r.pc, .word r.y, .word r.x, .byte r.a, .byte r.b, .byte r.cc.toByte]

/-- The pulls that take apart what was saved. -/
def Pull.frame : List Pull := [.byte, .byte, .byte, .word, .word, .word]

namespace Processor

variable {p : Processor}

/-- Returns from an interrupt. -/
def returnFromInterrupt (p : Processor) : Processor :=
  p.perform (returnFromInterruptEffect p.registers p.memory)

/-- The bytes and words that a return from an interrupt takes from the
stack. -/
lemma items_pullFrame (p : Processor) :
    (p.pullAll Pull.frame).1 =
      [.byte (p.memory.read (p.registers.sp + 1)), .byte (p.memory.read (p.registers.sp + 2)),
        .byte (p.memory.read (p.registers.sp + 3)),
        .word (p.memory.readWord (p.registers.sp + 4)),
        .word (p.memory.readWord (p.registers.sp + 6)),
        .word (p.memory.readWord (p.registers.sp + 8))] := by
  simp [pullAll, pull, Pull.frame, pullByte, pullWord, Memory.dataByte, Registers.drop,
    UInt16.add_assoc]

/-- A return from an interrupt restores the registers that were saved, but for
the latch, which stays clear if it was. -/
lemma returnFromInterrupt_pushAll (p q : Processor) (saved : Registers)
    (hsp : q.registers.sp = (p.pushAll (Push.frame saved)).registers.sp)
    (hmemory : q.memory = (p.pushAll (Push.frame saved)).memory) :
    q.returnFromInterrupt =
      { q with
        registers :=
          { saved with
            sp := p.registers.sp
            lastPc := q.registers.lastPc
            cycles := q.registers.cycles
            cc := { saved.cc with x := q.registers.cc.x && saved.cc.x } } } := by
  have hlength : (Push.allBytes (Push.frame saved)).length ≤ 65536 :=
    show 9 ≤ 65536 by decide
  have hwidths : Pull.frame.map Pull.width = (Push.frame saved).reverse.map Push.width := rfl
  have hstacked := p.stacked_pushAll hlength
  rw [← hmemory] at hstacked
  rw [sp_pushAll] at hsp
  obtain ⟨hitems, -⟩ := pullAll_of_stacked hwidths hstacked hsp
  rw [items_pullFrame] at hitems
  simp only [Push.frame, List.reverse_cons, List.reverse_nil, List.nil_append, List.cons_append,
    List.map_cons, List.map_nil, Push.item, List.cons.injEq, StackItem.byte.injEq,
    StackItem.word.injEq] at hitems
  obtain ⟨hcc, hb, ha, hx, hy, hpc, -⟩ := hitems
  have hbase : q.registers.sp + 9 = p.registers.sp := by
    rw [hsp]
    exact UInt16.sub_add_cancel p.registers.sp 9
  simp only [returnFromInterrupt, perform, returnFromInterruptEffect, hcc, hb, ha, hx, hy, hpc,
    hbase, ConditionCodes.load, ConditionCodes.ofByte_toByte]
  rfl

end Processor

/-! ### Instructions that push and pull -/

/-- What an instruction pushes, given the registers as they are once the
program counter has moved on. -/
def Instruction.push? (i : Instruction) (r : Registers) : Option Push :=
  match i.encoding.operation with
  | .push which => some (.byte (r.accumulator which))
  | .pushIndex which => some (.word (r.index which))
  | .branchToSubroutine => some (.call r.pc (i.branchTarget r))
  | .jumpToSubroutine => some (.call r.pc (i.jumpTarget r))
  | _ => none

/-- What an operation pulls, other than the frame of an interrupt. -/
def Operation.pull? : Operation → Option Pull
  | pull _ => some .byte
  | pullIndex _ => some .word
  | returnFromSubroutine => some .subroutine
  | _ => none

/-- The registers once an operation has put what it pulled where it belongs. A
return leaves it in the program counter. -/
def Operation.keep (operation : Operation) (item : StackItem) (r : Registers) : Registers :=
  match operation, item with
  | pull which, .byte value => r.putAccumulator which value
  | pullIndex which, .word value => r.putIndex which value
  | _, _ => r

namespace Processor

variable {p : Processor} {e : Encoding}

/-- The processor once the program counter has moved on from the opcode. -/
def proceed (p : Processor) : Processor := { p with registers := advance p.registers p.fetch }

/-- Charges the cycles of an instruction. -/
def charge (p : Processor) (e : Encoding) : Processor :=
  { p with registers := p.registers.charge (UInt64.ofNat e.cycles) }

/-- A step performs the effect of the instruction. -/
lemma step_eq_perform (h : p.fetch.encoding? = some e) :
    p.step.processor =
      (p.proceed.perform
        ((p.memory.complete p.fetch e).effect p.proceed.registers p.memory)).charge e := by
  rw [step_eq_execute h]
  rfl

/-- A step that pushes is a push. -/
lemma step_of_push? (h : p.fetch.encoding? = some e) {x : Push}
    (hx : (p.memory.complete p.fetch e).push? p.proceed.registers = some x) :
    p.step.processor = (p.proceed.push x).charge e := by
  rw [step_eq_perform h]
  obtain ⟨operation, mode, cycles⟩ := e
  cases operation with
  | push | pushIndex | branchToSubroutine | jumpToSubroutine =>
      obtain rfl := Option.some.inj hx
      rfl
  | _ => cases hx

/-- A step that pulls is a pull. -/
lemma step_of_pull? (h : p.fetch.encoding? = some e) {y : Pull}
    (hy : e.operation.pull? = some y) :
    p.step.processor =
      let pulled := p.proceed.pull y
      charge { pulled.2 with
        registers := e.operation.keep pulled.1 pulled.2.registers } e := by
  rw [step_eq_perform h]
  obtain ⟨operation, mode, cycles⟩ := e
  cases operation with
  | pull | pullIndex | returnFromSubroutine =>
      obtain rfl := Option.some.inj hy
      rfl
  | _ => cases hy

/-- A step that returns from an interrupt does so. -/
lemma step_of_returnFromInterrupt (h : p.fetch.encoding? = some e)
    (hreturn : e.operation = .returnFromInterrupt) :
    p.step.processor = p.proceed.returnFromInterrupt.charge e := by
  rw [step_eq_perform h]
  obtain ⟨operation, mode, cycles⟩ := e
  obtain rfl := hreturn
  rfl

end Processor

/-- **The stack is last-in first-out**, around the end of the address space
and up to its size. Pulls of the same widths bring back in reverse what was
pushed, and all registers but the program counter; the bytes pushed stand from
the stack pointer on downwards, no others have changed, and a word can be read
right above the stack pointer. So returns lead back through as many calls, and
a return from an interrupt restores a frame, but for the latch. What pushes and
pulls stand for here are the steps of the instructions that do so. -/
theorem Core.stack_lastInFirstOut (c : Core) :
    let p := c.processor
    (∀ xs, (Push.allBytes xs).length ≤ 65536 →
      (∀ ys, ys.map Pull.width = xs.reverse.map Push.width →
        ((p.pushAll xs).pullAll ys).1 = xs.reverse.map Push.item ∧
          ∃ pc, ((p.pushAll xs).pullAll ys).2 =
            ⟨{ p.registers with pc }, (p.pushAll xs).memory⟩) ∧
      (∃ pc, (p.pushAll xs).registers =
        p.registers.relocate (p.registers.sp - UInt16.ofNat (Push.allBytes xs).length) pc) ∧
      (p.pushAll xs).memory.Stacked p.registers.sp (Push.allBytes xs) ∧
      ∀ address, (∀ k < (Push.allBytes xs).length, address ≠ p.registers.sp - UInt16.ofNat k) →
        (p.pushAll xs).memory.read address = p.memory.read address) ∧
    (∀ xs x w, x.item = .word w →
      let pushed := (p.pushAll xs).push x
      pushed.memory.readWord (pushed.registers.sp + 1) = w) ∧
    (∀ calls : List (UInt16 × UInt16), calls.length ≤ 32768 →
      let inside := p.pushAll (Push.nested calls)
      let back := inside.pullAll (List.replicate calls.length .subroutine)
      back.1 = calls.reverse.map (fun call => .word call.1) ∧
        ∃ pc, back.2 = ⟨{ p.registers with pc }, inside.memory⟩) ∧
    (∀ (saved : Registers) (q : Processor),
      q.registers.sp = (p.pushAll (Push.frame saved)).registers.sp →
      q.memory = (p.pushAll (Push.frame saved)).memory →
      q.returnFromInterrupt =
        { q with
          registers :=
            { saved with
              sp := p.registers.sp
              lastPc := q.registers.lastPc
              cycles := q.registers.cycles
              cc := { saved.cc with x := q.registers.cc.x && saved.cc.x } } }) ∧
    ∀ e, p.fetch.encoding? = some e →
      (∀ x, (p.memory.complete p.fetch e).push? p.proceed.registers = some x →
        c.step.core.processor = (p.proceed.push x).charge e) ∧
      (∀ y, e.operation.pull? = some y →
        let pulled := p.proceed.pull y
        c.step.core.processor =
          Processor.charge { pulled.2 with
            registers := e.operation.keep pulled.1 pulled.2.registers } e) ∧
      (e.operation = .returnFromInterrupt →
        c.step.core.processor = p.proceed.returnFromInterrupt.charge e) := by
  intro p
  refine ⟨fun xs hlength => ⟨fun ys hwidths => p.pullAll_pushAll hlength hwidths,
      p.registers_pushAll xs, p.stacked_pushAll hlength, fun address haddress => ?_⟩,
    fun xs x w hword => (p.pushAll xs).readWord_push hword,
    fun calls hlength => p.pullAll_nested hlength,
    fun saved q hsp hmemory => p.returnFromInterrupt_pushAll q saved hsp hmemory,
    fun e he => ⟨fun x => Processor.step_of_push? he, fun y => Processor.step_of_pull? he,
      Processor.step_of_returnFromInterrupt he⟩⟩
  rw [Processor.memory_pushAll]
  exact Memory.read_writeDown _ haddress

/-- A byte, a word and a call on a stack that begins at address zero, so that
all but the first byte lie at the end of the address space: the return, a word
and a byte come back. -/
theorem Core.stack_lastInFirstOut_acrossZero :
    let xs : List Push := [.byte 0x01, .word 0x0203, .call 0x1000 0x2000]
    let pulled := (Core.initial.processor.pushAll xs).pullAll [.subroutine, .word, .byte]
    (Push.allBytes xs).length ≤ 65536 ∧ pulled.1 = [.word 0x1000, .word 0x0203, .byte 0x01] ∧
      pulled.2.registers.sp = 0 := by
  intro xs pulled
  have hlength : (Push.allBytes xs).length ≤ 65536 := by decide
  obtain ⟨hitems, pc, hrestored⟩ :=
    ((Core.stack_lastInFirstOut Core.initial).1 xs hlength).1 [.subroutine, .word, .byte] rfl
  exact ⟨hlength, hitems, congrArg (·.registers.sp) hrestored⟩

end M68HC11
