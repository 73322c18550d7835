import M68HC11.Proofs.Encoded
import M68HC11.Proofs.Flow
import Mathlib.Data.List.Chain

/-!
Listings of what is executed.

A listing goes from one instruction to the next without executing any, so it says
what a core will execute as long as the core does not jump and does not write to
the instructions in front of it. Both go around the end of the address space, and
a listing may be longer than that.

* `Memory.isChain_listing`, `Memory.bytes_listing` and `Memory.listingEnd_listing`:
  the rows of a listing lie side by side, from its start to its end;
* `Memory.listing_congr`: a listing depends on the bytes of its rows only;
* `Core.StraightLine`: the steps of a core go on behind their instructions and
  change no byte of the listing from there; `Core.StraightLine.tail`: so they do
  after the first of them, and the listing from there is the rest;
* `Core.listing_predicts` (**a listing predicts straight-line execution**).
-/

namespace M68HC11

/-! ### Rows side by side -/

/-- Where the last of some rows ends, the first of which begins at `start`. -/
def listingEnd (start : UInt16) (rows : List ListingRow) : UInt16 :=
  (rows.getLast?.map ListingRow.next).getD start

/-- Rows behind a row end where they would end alone. -/
lemma listingEnd_cons (start : UInt16) (row : ListingRow) (rows : List ListingRow) :
    listingEnd start (row :: rows) = listingEnd row.next rows := by
  rw [listingEnd, listingEnd, List.getLast?_cons, Option.getD_map, Option.map_some,
    Option.getD_some]

namespace Memory

variable (m : Memory) (start : UInt16) (n : Nat)

/-- A listing begins at its start. -/
lemma address_of_mem_head?_listing {row : ListingRow} (h : row ∈ (m.listing start n).head?) :
    row.address = start := by
  cases n with
  | zero => cases h
  | succ n =>
      rw [listing_succ, List.head?_cons] at h
      obtain rfl := Option.some.inj h
      exact m.address_row start

/-- Each row of a listing begins where the one before it ends. -/
lemma isChain_listing :
    (m.listing start n).IsChain fun row next => next.address = row.next := by
  induction n generalizing start with
  | zero => exact .nil
  | succ n ih =>
      rw [listing_succ]
      exact (ih _).cons fun _ => m.address_of_mem_head?_listing _ n

/-- The rows of a listing have the bytes that stand there, one row after the
other. -/
lemma bytes_listing :
    (m.listing start n).flatMap ListingRow.bytes =
      m.readBlock start ((m.listing start n).map ListingRow.size).sum := by
  induction n generalizing start with
  | zero => rfl
  | succ n ih =>
      rw [listing_succ, List.flatMap_cons, ih, bytes_row, List.map_cons, List.sum_cons,
        readBlock_add, ListingRow.next, address_row]

/-- A listing ends as many bytes behind its start as its rows have. -/
lemma listingEnd_listing :
    listingEnd start (m.listing start n) =
      start + UInt16.ofNat ((m.listing start n).map ListingRow.size).sum := by
  induction n generalizing start with
  | zero => exact (UInt16.add_zero start).symm
  | succ n ih =>
      rw [listing_succ, listingEnd_cons, ih, List.map_cons, List.sum_cons, ListingRow.next,
        address_row, UInt16.ofNat_add, UInt16.add_assoc]

/-- A row of a listing has as many bytes as its size says. -/
lemma length_bytes_of_mem_listing {row : ListingRow} (h : row ∈ m.listing start n) :
    row.bytes.length = row.size := by
  induction n generalizing start with
  | zero => cases h
  | succ n ih =>
      rw [listing_succ] at h
      rcases List.mem_cons.mp h with rfl | h
      · rw [bytes_row, length_readBlock]
      · exact ih _ h

end Memory

/-! ### Rows that stay as they are -/

/-- Whether two memories have the same bytes where some rows are. -/
def AgreeOn (rows : List ListingRow) (m₁ m₂ : Memory) : Prop :=
  ∀ row ∈ rows, ∀ k < row.size,
    m₁.read (row.address + UInt16.ofNat k) = m₂.read (row.address + UInt16.ofNat k)

instance (rows : List ListingRow) (m₁ m₂ : Memory) : Decidable (AgreeOn rows m₁ m₂) :=
  inferInstanceAs (Decidable (∀ row ∈ rows, ∀ k < row.size, _ = _))

/-- A listing depends on the bytes of its rows and on no others. -/
lemma Memory.listing_congr {m₁ m₂ : Memory} {start : UInt16} {n : Nat}
    (h : AgreeOn (m₁.listing start n) m₂ m₁) : m₂.listing start n = m₁.listing start n := by
  induction n generalizing start with
  | zero => rfl
  | succ n ih =>
      rw [listing_succ] at h
      have hrow : m₂.row start = m₁.row start := by
        refine row_congr ?_
        rw [bytes_row]
        refine readBlock_congr fun k hk => ?_
        have hread := h _ List.mem_cons_self k hk
        rwa [address_row] at hread
      rw [listing_succ, listing_succ, hrow, ih fun row hmem => h row (List.mem_cons_of_mem _ hmem)]

/-! ### Steps without jumps -/

namespace Core

/-- Executes a number of instructions, whatever comes of them. -/
def stepTimes : Nat → Core → Core
  | 0, c => c
  | n + 1, c => stepTimes n c.step.core

/-- Whether the first `n` steps of a core go on behind their instructions and leave
the bytes of the first `n` listed instructions as they are. -/
structure StraightLine (c : Core) (n : Nat) : Prop where
  goesOn : ∀ i < n, (stepTimes i c).step.core.registers.pc =
    (stepTimes i c).registers.pc + UInt16.ofNat (stepTimes i c).processor.fetch.size
  spares : ∀ i < n, AgreeOn (c.memory.listing c.registers.pc n) (stepTimes i c).step.core.memory
    (stepTimes i c).memory

namespace StraightLine

variable {c : Core} {n : Nat}

/-- The first step goes on behind the first row. -/
lemma pc_step (h : c.StraightLine (n + 1)) : c.step.core.registers.pc = c.processor.row.next := by
  rw [Processor.row, ListingRow.next, Memory.address_row, Memory.size_row]
  exact h.goesOn 0 n.succ_pos

/-- What is listed after the first step is the rest of what was listed before. -/
lemma listing_tail (h : c.StraightLine (n + 1)) :
    c.step.core.memory.listing c.step.core.registers.pc n =
      c.memory.listing c.processor.row.next n := by
  rw [h.pc_step]
  have hspares := h.spares 0 n.succ_pos
  rw [Memory.listing_succ] at hspares
  exact Memory.listing_congr fun row hmem => hspares row (List.mem_cons_of_mem _ hmem)

/-- After the first step the rest is a straight line. -/
lemma tail (h : c.StraightLine (n + 1)) : c.step.core.StraightLine n where
  goesOn i hi := h.goesOn (i + 1) (Nat.succ_lt_succ hi)
  spares i hi := by
    have hspares := h.spares (i + 1) (Nat.succ_lt_succ hi)
    rw [Memory.listing_succ] at hspares
    rw [h.listing_tail]
    exact fun row hmem => hspares row (List.mem_cons_of_mem _ hmem)

end StraightLine

/-- Whether a step of the core is the one that a row is of. -/
structure Executes (c : Core) (row : ListingRow) : Prop where
  address : c.step.core.registers.lastPc = row.address
  invalid : (∃ fault cycles, c.step.retirement = .invalidOpcode fault cycles) ↔
    row.isInvalid = true
  bytes : c.memory.readBlock c.registers.pc c.processor.fetch.size = row.bytes

/-- A step is the one that the row at the program counter is of. -/
lemma executes_row (c : Core) : c.Executes c.processor.row where
  address := c.processor.lastPc_step.trans (c.memory.address_row c.registers.pc).symm
  invalid := c.processor.retirement_step_iff
  bytes := by
    rw [Processor.row, Memory.bytes_row, Memory.size_row]
    rfl

/-- A straight line executes what is listed, one row after the other, and ends
where the listing does. -/
lemma StraightLine.executes_listing {c : Core} {n : Nat} (h : c.StraightLine n) :
    (∀ i row, (c.memory.listing c.registers.pc n)[i]? = some row → (stepTimes i c).Executes row) ∧
      (stepTimes n c).registers.pc =
        listingEnd c.registers.pc (c.memory.listing c.registers.pc n) := by
  induction n generalizing c with
  | zero => exact ⟨fun i row hrow => absurd hrow (by simp), rfl⟩
  | succ n ih =>
      obtain ⟨hrows, hend⟩ := ih h.tail
      rw [h.listing_tail] at hrows hend
      rw [Memory.listing_succ]
      refine ⟨fun i row hrow => ?_, ?_⟩
      · cases i with
        | zero =>
            obtain rfl := Option.some.inj hrow
            exact c.executes_row
        | succ i => exact hrows i row hrow
      · rw [listingEnd_cons]
        exact hend.trans (by rw [h.pc_step]; rfl)

/-- **A listing predicts straight-line execution**: as long as no step jumps or
changes a byte of the rows, the instructions executed are those of the listing from
the program counter, with their addresses and bytes, and are reported as not
assigned exactly if their rows are marked so; afterwards the program counter is
behind the last row. Rows tile the memory, whatever is in it: the first begins at
the start, each of the others where the one before it ends, and together they have
the bytes that stand there. -/
theorem listing_predicts :
    (∀ (c : Core) (n : Nat), c.StraightLine n →
      let rows := c.memory.listing c.registers.pc n
      rows.length = n ∧ (∀ i row, rows[i]? = some row → (stepTimes i c).Executes row) ∧
        (stepTimes n c).registers.pc = listingEnd c.registers.pc rows) ∧
      ∀ (m : Memory) (start : UInt16) (n : Nat),
        let rows := m.listing start n
        let size := (rows.map ListingRow.size).sum
        rows.length = n ∧ (∀ row ∈ rows.head?, row.address = start) ∧
          rows.IsChain (fun row next => next.address = row.address + UInt16.ofNat row.size) ∧
            (∀ row ∈ rows, row.bytes.length = row.size) ∧
              rows.flatMap ListingRow.bytes = m.readBlock start size ∧
                listingEnd start rows = start + UInt16.ofNat size := by
  refine ⟨fun c n h => ?_, fun m start n => ?_⟩
  · exact ⟨c.memory.length_listing _ n, h.executes_listing⟩
  · exact ⟨m.length_listing start n, fun _ => m.address_of_mem_head?_listing start n,
      m.isChain_listing start n, fun _ => m.length_bytes_of_mem_listing start n,
      m.bytes_listing start n, m.listingEnd_listing start n⟩

/-- A load and a store next to the program. -/
theorem listing_predicts_loadStore :
    let c : Core :=
      ⟨⟨Registers.reset, Memory.zero.writeBlock 0 [0x86, 0x2A, 0x97, 0x04]⟩, ∅⟩
    c.StraightLine 2 ∧ (stepTimes 2 c).registers.pc = 4 := by
  intro c
  have hline : c.StraightLine 2 := ⟨by decide +kernel, by decide +kernel⟩
  have hend : listingEnd c.registers.pc (c.memory.listing c.registers.pc 2) = 4 := by
    decide +kernel
  clear_value c
  obtain ⟨-, -, hpc⟩ := listing_predicts.1 c 2 hline
  exact ⟨hline, hpc.trans hend⟩

end Core

end M68HC11
