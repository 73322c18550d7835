import M68HC11.Image.Elf
import M68HC11.Proofs.Records
import Mathlib.Algebra.Ring.Nat

/-!
Images in the executable and linkable format, and what loading them does.

* `Elf.WordAt`, `Elf.SegmentAt`, `Elf.Opens` and `Elf.Complete`: where the parts
  of such an image stand in a file, said without the reader, and
  `Elf.BreaksAfter` the segments behind which a file breaks off;
* `Elf.word_eq_ok_iff` and `Elf.segmentAt_of_read`: a word, and a segment with
  its header, is read exactly if it is there;
* `Elf.exists_segments` and `Elf.readSegments_of_segments`: of the segments as
  many are read as lie in the file before the first one that does not;
* `load_ofElf`: a file is read without an error exactly if it is complete, and
  loading it then copies its segments in order and goes to its entry address.
-/

namespace M68HC11

/-! ### Images with blocks in front -/

namespace Block

/-- The address and the bytes of a block, without what is logged. -/
def content (b : Block) : UInt16 × List UInt8 := (b.address, b.bytes)

end Block

namespace Image

/-- The image with blocks in front of its own. -/
def after (front : List Block) (image : Image) : Image :=
  { image with blocks := front ++ image.blocks }

/-- Reading ends as it does without the blocks in front. -/
@[simp] lemma error?_after (front : List Block) (image : Image) :
    (image.after front).error? = image.error? := rfl

/-- An image that ends at an error has that error. -/
lemma error?_ofEnding (e : ImageError) : (Image.ofEnding (.error e)).error? = some e := rfl

end Image

namespace Core

/-- The blocks in front of an image are written before it is loaded. -/
lemma load_after (c : Core) (front : List Block) (image : Image) :
    c.load (image.after front) =
      (c.putMemory (c.memory.writeBlocks (front.map Block.content))).load image := by
  have hmemory : (image.after front).writeTo c.memory =
      image.writeTo (c.memory.writeBlocks (front.map Block.content)) := by
    rw [Memory.writeBlocks, List.foldl_map]
    exact List.foldl_append
  rw [load, Image.load]
  exact congrArg (fun m => (⟨⟨image.enter c.registers, m⟩, c.traps⟩ : Core)) hmemory

end Core

namespace Elf

/-! ### Where the parts of an image stand -/

variable (file : List UInt8)

/-- A word of 32 bits stands at an offset, its most significant byte first. -/
def WordAt (offset value : ℕ) : Prop :=
  ∃ a b c d : UInt8, [a, b, c, d] <+: file.drop offset ∧
    value = a.toNat * 2 ^ 24 + b.toNat * 2 ^ 16 + c.toNat * 2 ^ 8 + d.toNat

/-- A segment lies in the file, and so does the header with its place there, its
address and its size. -/
structure SegmentAt (index : ℕ) (h : Header) : Prop where
  fileOffset : WordAt file (0x38 + 32 * index) h.fileOffset
  virtualAddress : WordAt file (0x38 + 32 * index + 4) h.virtualAddress
  size : WordAt file (0x38 + 32 * index + 12) h.size
  inside : h.fileOffset + h.size ≤ file.length

/-- The segments from an index on lie in the file. -/
def SegmentsFrom (index : ℕ) (headers : List Header) : Prop :=
  ∀ i h, headers[i]? = some h → SegmentAt file (index + i) h

/-- What the file begins with: the magic bytes, and further on the entry address
and the number of segments. -/
structure Opens (entry count : ℕ) : Prop where
  magic : [0x7F, 0x45, 0x4C, 0x46] <+: file
  entry : WordAt file 0x18 entry
  count : file[0x2D]?.map UInt8.toNat = some count

/-- The file is an image with an entry address and segments, all of it there. -/
structure Complete (entry : ℕ) (headers : List Header) : Prop where
  opens : Opens file entry headers.length
  segments : SegmentsFrom file 0 headers

/-- The file breaks off behind some segments: the next of its segments is not
there, or it does not even begin as an image. -/
structure BreaksAfter (headers : List Header) : Prop where
  segments : SegmentsFrom file 0 headers
  stop : (∃ entry count, Opens file entry count ∧ headers.length < count ∧
      ∀ h, ¬ SegmentAt file headers.length h) ∨
    (∀ entry count, ¬ Opens file entry count) ∧ headers = []

/-- What a segment puts into memory: its bytes in the file, at the lower sixteen
bits of its address. -/
def Header.content (h : Header) : UInt16 × List UInt8 :=
  (UInt16.ofNat h.virtualAddress, (file.drop h.fileOffset).take h.size)

variable {file}

lemma SegmentsFrom.nil (index : ℕ) : SegmentsFrom file index [] := by
  intro i h hi
  simp at hi

lemma segmentsFrom_cons {index : ℕ} {h : Header} {headers : List Header} :
    SegmentsFrom file index (h :: headers) ↔
      SegmentAt file index h ∧ SegmentsFrom file (index + 1) headers := by
  constructor
  · intro hall
    refine ⟨hall 0 h rfl, fun i h' hi => ?_⟩
    have hat := hall (i + 1) h' hi
    rwa [Nat.add_comm i 1, ← Nat.add_assoc] at hat
  · rintro ⟨hfirst, hrest⟩ i h' hi
    cases i with
    | zero =>
        obtain rfl : h = h' := Option.some.inj hi
        exact hfirst
    | succ i =>
        have hat := hrest i h' hi
        rwa [Nat.add_assoc, Nat.add_comm 1 i] at hat

/-! ### Words -/

/-- A word is read exactly if it is there. -/
lemma word_eq_ok_iff {offset value : ℕ} :
    word file offset = .ok value ↔ WordAt file offset value := by
  have hvalue (a b c d : UInt8) : bigEndian [a, b, c, d] =
      a.toNat * 2 ^ 24 + b.toNat * 2 ^ 16 + c.toNat * 2 ^ 8 + d.toNat := by
    simp only [bigEndian, List.foldl_cons, List.foldl_nil]
    omega
  constructor
  · intro h
    rw [word, slice?] at h
    split at h
    · next bytes hbytes =>
      split at hbytes
      · next hroom =>
        obtain rfl := Option.some.inj hbytes
        have hlength : ((file.drop offset).take 4).length = 4 := by
          rw [List.length_take, List.length_drop]
          omega
        obtain ⟨a, b, c, d, hfour⟩ := List.length_eq_four.mp hlength
        refine ⟨a, b, c, d, hfour ▸ List.take_prefix _ _, ?_⟩
        rw [Nat.add_sub_cancel_left, hfour, hvalue] at h
        exact (Except.ok.inj h).symm
      · cases hbytes
    · cases h
  · rintro ⟨a, b, c, d, ⟨rest, hrest⟩, rfl⟩
    have hroom : offset + 4 ≤ file.length := by
      have hlength := congrArg List.length hrest
      rw [List.length_append, List.length_drop] at hlength
      simp only [List.length_cons, List.length_nil] at hlength
      omega
    rw [word, slice?, if_pos ⟨Nat.le_add_right _ _, hroom⟩, ← hrest, Nat.add_sub_cancel_left]
    exact congrArg Except.ok (hvalue a b c d)

/-- A word that is not there is missed at its offset. -/
lemma exists_word_eq (file : List UInt8) (offset : ℕ) :
    (∃ value, word file offset = .ok value) ∨ word file offset = .error (.truncatedElf offset) := by
  rw [word]
  split
  · exact .inl ⟨_, rfl⟩
  · exact .inr rfl

/-! ### Segments -/

/-- A header is read as the words that it consists of. -/
lemma header_of_segmentAt {index : ℕ} {h : Header} (hat : SegmentAt file index h) :
    header file index = .ok h := by
  rw [header, headerOffset, word_eq_ok_iff.mpr hat.fileOffset]
  simp only [word_eq_ok_iff.mpr hat.virtualAddress, word_eq_ok_iff.mpr hat.size]

/-- A segment is read as the bytes that it puts into memory. -/
lemma block_of_segmentAt {index : ℕ} {h : Header} (hat : SegmentAt file index h) :
    ∃ b, h.block index file = .ok b ∧ b.content = h.content file := by
  rw [Header.block, slice?, if_pos ⟨Nat.le_add_right _ _, hat.inside⟩]
  refine ⟨_, rfl, ?_⟩
  rw [Block.content, Header.content, Nat.add_sub_cancel_left]

/-- A header that is read is there. -/
lemma segmentAt_of_header {index : ℕ} {h : Header} (hheader : header file index = .ok h)
    (hinside : h.fileOffset + h.size ≤ file.length) : SegmentAt file index h := by
  rw [header] at hheader
  split at hheader
  · cases hheader
  next fileOffset hoffset =>
  split at hheader
  · cases hheader
  next virtualAddress haddress =>
  split at hheader
  · cases hheader
  next size hsize =>
  obtain rfl := Except.ok.inj hheader
  exact ⟨word_eq_ok_iff.mp hoffset, word_eq_ok_iff.mp haddress, word_eq_ok_iff.mp hsize, hinside⟩

/-- A segment that is read is there. -/
lemma segmentAt_of_read {index : ℕ} {h : Header} {b : Block} (hheader : header file index = .ok h)
    (hblock : h.block index file = .ok b) : SegmentAt file index h := by
  refine segmentAt_of_header hheader ?_
  by_contra hout
  rw [Header.block, slice?, if_neg fun hroom => hout hroom.2] at hblock
  cases hblock

/-- The error about a header tells how far the file would have to reach. -/
lemma truncated_of_header {index : ℕ} {e : ImageError} (h : header file index = .error e) :
    ∃ offset, e = .truncatedElf offset := by
  have hword {offset : ℕ} {e' : ImageError} (he : word file offset = .error e') :
      ∃ offset, e' = .truncatedElf offset := by
    obtain ⟨value, hvalue⟩ | hmissed := exists_word_eq file offset
    · rw [hvalue] at he
      cases he
    · exact ⟨offset, (Except.error.inj (hmissed.symm.trans he)).symm⟩
  rw [header] at h
  split at h
  · next hfirst =>
    obtain rfl := Except.error.inj h
    exact hword hfirst
  split at h
  · next hsecond =>
    obtain rfl := Except.error.inj h
    exact hword hsecond
  split at h
  · next hthird =>
    obtain rfl := Except.error.inj h
    exact hword hthird
  · cases h

/-- So does the error about a segment. -/
lemma truncated_of_block {index : ℕ} {h : Header} {e : ImageError}
    (hblock : h.block index file = .error e) : ∃ offset, e = .truncatedElf offset := by
  rw [Header.block] at hblock
  split at hblock
  · exact ⟨_, (Except.error.inj hblock).symm⟩
  · cases hblock

/-- Reading ends at the first segment that is not there. -/
lemma readSegments_of_not_segmentAt {index : ℕ} (hnone : ∀ h, ¬ SegmentAt file index h)
    (entry : UInt16) (count : ℕ) :
    ∃ offset, readSegments file entry index (count + 1) =
      .ofEnding (.error (.truncatedElf offset)) := by
  rw [readSegments]
  cases hheader : header file index with
  | error e =>
      obtain ⟨offset, rfl⟩ := truncated_of_header hheader
      exact ⟨offset, rfl⟩
  | ok h =>
      cases hblock : h.block index file with
      | error e =>
          obtain ⟨offset, rfl⟩ := truncated_of_block hblock
          exact ⟨offset, by simp only [hblock]⟩
      | ok b => exact absurd (segmentAt_of_read hheader hblock) (hnone h)

/-- Segments that are there are read, and then the rest. -/
lemma readSegments_of_segments {index : ℕ} {headers : List Header}
    (hall : SegmentsFrom file index headers) (entry : UInt16) (count : ℕ) :
    ∃ blocks : List Block, blocks.map Block.content = headers.map (Header.content file) ∧
      readSegments file entry index (headers.length + count) =
        (readSegments file entry (index + headers.length) count).after blocks := by
  induction headers generalizing index with
  | nil => exact ⟨[], rfl, by rw [List.length_nil, Nat.zero_add]; rfl⟩
  | cons h headers ih =>
      obtain ⟨hfirst, hrest⟩ := segmentsFrom_cons.mp hall
      obtain ⟨b, hblock, hcontent⟩ := block_of_segmentAt hfirst
      obtain ⟨blocks, hblocks, hread⟩ := ih hrest
      refine ⟨b :: blocks, by rw [List.map_cons, List.map_cons, hcontent, hblocks], ?_⟩
      have hcount : (h :: headers).length + count = headers.length + count + 1 := by
        rw [List.length_cons]
        omega
      have hindex : index + (h :: headers).length = index + 1 + headers.length := by
        rw [List.length_cons]
        omega
      rw [hcount, readSegments, header_of_segmentAt hfirst]
      simp only [hblock, hread, hindex]
      rfl

/-- Of so many segments, those in front of the first one that is not there. -/
lemma exists_segments (file : List UInt8) (index count : ℕ) :
    ∃ headers : List Header, headers.length ≤ count ∧ SegmentsFrom file index headers ∧
      (headers.length < count → ∀ h, ¬ SegmentAt file (index + headers.length) h) := by
  induction count generalizing index with
  | zero => exact ⟨[], Nat.le_refl 0, .nil index, fun hlt => absurd hlt (Nat.lt_irrefl 0)⟩
  | succ count ih =>
      by_cases hfirst : ∃ h, SegmentAt file index h
      · obtain ⟨h, hat⟩ := hfirst
        obtain ⟨headers, hlength, hall, hstop⟩ := ih (index + 1)
        refine ⟨h :: headers, Nat.succ_le_succ hlength, segmentsFrom_cons.mpr ⟨hat, hall⟩, ?_⟩
        intro hlt
        have hnone := hstop (Nat.lt_of_succ_lt_succ hlt)
        rwa [Nat.add_assoc, Nat.add_comm 1] at hnone
      · exact ⟨[], Nat.zero_le _, .nil index, fun _ => not_exists.mp hfirst⟩

/-! ### Files -/

/-- The segments of a file that begins as an image are read. -/
lemma ofElf_of_opens {entry count : ℕ} (h : Opens file entry count) :
    Image.ofElf file = readSegments file (UInt16.ofNat entry) 0 count := by
  have hmagic : file.take 4 = magic := (List.prefix_iff_eq_take.mp h.magic).symm
  obtain ⟨n, hn, rfl⟩ := Option.map_eq_some_iff.mp h.count
  rw [Image.ofElf, if_neg (not_not_intro hmagic), entryOffset, word_eq_ok_iff.mpr h.entry]
  simp only [countOffset, hn]

/-- Other files are refused at once: without the magic bytes for this reason,
and with them because the file ends too early. -/
lemma ofElf_of_not_opens (h : ∀ entry count, ¬ Opens file entry count) :
    ∃ e, Image.ofElf file = .ofEnding (.error e) ∧
      (¬ magic <+: file → e = .badElfMagic) ∧
      (magic <+: file → ∃ offset, e = .truncatedElf offset) := by
  by_cases hmagic : magic <+: file
  · have htake : file.take 4 = magic := (List.prefix_iff_eq_take.mp hmagic).symm
    rw [Image.ofElf, if_neg (not_not_intro htake)]
    obtain ⟨entry, hentry⟩ | hmissed := exists_word_eq file entryOffset
    · have hcount : file[countOffset]? = none := by
        by_contra hsome
        obtain ⟨n, hn⟩ := Option.ne_none_iff_exists'.mp hsome
        exact h entry n.toNat ⟨hmagic, word_eq_ok_iff.mp hentry, congrArg (Option.map _) hn⟩
      simp only [hentry, hcount]
      exact ⟨_, rfl, fun hnot => absurd hmagic hnot, fun _ => ⟨_, rfl⟩⟩
    · simp only [hmissed]
      exact ⟨_, rfl, fun hnot => absurd hmagic hnot, fun _ => ⟨_, rfl⟩⟩
  · have htake : file.take 4 ≠ magic := fun heq => hmagic (heq ▸ List.take_prefix _ _)
    rw [Image.ofElf, if_pos htake]
    exact ⟨_, rfl, fun _ => rfl, fun hyes => absurd hyes hmagic⟩

/-- A complete file is read as its segments and its entry address. -/
lemma ofElf_of_complete {entry : ℕ} {headers : List Header} (h : Complete file entry headers) :
    ∃ blocks : List Block, blocks.map Block.content = headers.map (Header.content file) ∧
      Image.ofElf file = (Image.ofEnding (.ok (some (UInt16.ofNat entry)))).after blocks := by
  obtain ⟨blocks, hblocks, hread⟩ :=
    readSegments_of_segments h.segments (UInt16.ofNat entry) 0
  exact ⟨blocks, hblocks, (ofElf_of_opens h.opens).trans hread⟩

/-- Any other file is read up to the segment behind which it breaks off. -/
lemma ofElf_of_not_complete (h : ∀ entry headers, ¬ Complete file entry headers) :
    ∃ (headers : List Header) (blocks : List Block) (e : ImageError), BreaksAfter file headers ∧
      blocks.map Block.content = headers.map (Header.content file) ∧
      Image.ofElf file = (Image.ofEnding (.error e)).after blocks ∧
      (¬ magic <+: file → e = .badElfMagic) ∧
      (magic <+: file → ∃ offset, e = .truncatedElf offset) := by
  by_cases hopens : ∃ entry count, Opens file entry count
  · obtain ⟨entry, count, hopens⟩ := hopens
    obtain ⟨headers, hle, hall, hstop⟩ := exists_segments file 0 count
    have hlt : headers.length < count := by
      refine Nat.lt_of_le_of_ne hle fun heq => h entry headers ⟨?_, hall⟩
      rwa [heq]
    have hnone := hstop hlt
    obtain ⟨rest, hrest⟩ : ∃ rest, count = headers.length + (rest + 1) :=
      ⟨count - headers.length - 1, by omega⟩
    obtain ⟨blocks, hblocks, hread⟩ :=
      readSegments_of_segments hall (UInt16.ofNat entry) (rest + 1)
    obtain ⟨offset, hend⟩ := readSegments_of_not_segmentAt hnone (UInt16.ofNat entry) rest
    have hfile : Image.ofElf file =
        (Image.ofEnding (.error (.truncatedElf offset))).after blocks := by
      rw [ofElf_of_opens hopens, hrest, hread, hend]
    rw [Nat.zero_add] at hnone
    exact ⟨headers, blocks, _, ⟨hall, .inl ⟨entry, count, hopens, hlt, hnone⟩⟩, hblocks, hfile,
      fun hnot => absurd hopens.magic hnot, fun _ => ⟨offset, rfl⟩⟩
  · have hnot : ∀ entry count, ¬ Opens file entry count :=
      fun entry count hyes => hopens ⟨entry, count, hyes⟩
    obtain ⟨e, hfile, hcause⟩ := ofElf_of_not_opens hnot
    exact ⟨[], [], e, ⟨.nil 0, .inr ⟨hnot, rfl⟩⟩, rfl, hfile, hcause⟩

end Elf

/-! ### Loading a file -/

/-- **A file is accepted exactly if it is complete, and is then copied as it
stands.** A core that a complete file is loaded into has its segments in its
memory, written in the order of their headers, and goes on at the entry address;
its other registers and its traps stay as they are, and so does everything about
a machine but its core and its log. Without the magic bytes a file is refused for
that reason, and any other file because it ends too early. (Segments may be of any
length; where sums are checked for overflow, loading one whose end is no number of
32 bits, as `Memory.blockEnd` has it, does not return.) -/
theorem load_ofElf (file : List UInt8) :
    ((Image.ofElf file).error? = none ↔ ∃ entry headers, Elf.Complete file entry headers) ∧
      (∀ entry headers, Elf.Complete file entry headers →
        (∀ c : Core, c.load (Image.ofElf file) =
          ⟨⟨{ c.registers with pc := UInt16.ofNat entry },
            c.memory.writeBlocks (headers.map (Elf.Header.content file))⟩, c.traps⟩) ∧
        ∀ m : Machine, ∃ log : List LogEntry, m.load (Image.ofElf file) =
          { m with core := m.core.load (Image.ofElf file) }.tell (log.map .log)) ∧
      (¬ Elf.magic <+: file → (Image.ofElf file).error? = some .badElfMagic) ∧
      (Elf.magic <+: file → ∀ e, (Image.ofElf file).error? = some e →
        ∃ offset, e = .truncatedElf offset) := by
  have hcomplete {entry : ℕ} {headers : List Elf.Header} (h : Elf.Complete file entry headers) :
      (Image.ofElf file).error? = none := by
    obtain ⟨blocks, -, hfile⟩ := Elf.ofElf_of_complete h
    rw [hfile, Image.error?_after]
    rfl
  refine ⟨⟨fun hok => ?_, fun ⟨entry, headers, h⟩ => hcomplete h⟩,
    fun entry headers h => ⟨fun c => ?_, fun m => ⟨_, rfl⟩⟩,
    fun hmagic => ?_, fun hmagic e he => ?_⟩
  · by_contra hnot
    obtain ⟨_, blocks, e, -, -, hfile, -⟩ :=
      Elf.ofElf_of_not_complete fun entry headers h => hnot ⟨entry, headers, h⟩
    rw [hfile, Image.error?_after] at hok
    cases hok
  · obtain ⟨blocks, hblocks, hfile⟩ := Elf.ofElf_of_complete h
    rw [hfile, Core.load_after, Core.load_ofEnding, hblocks]
    rfl
  · have hnot : ∀ entry headers, ¬ Elf.Complete file entry headers :=
      fun _ _ h => hmagic h.opens.magic
    obtain ⟨_, blocks, e, -, -, hfile, hbad, -⟩ := Elf.ofElf_of_not_complete hnot
    rw [hfile, Image.error?_after, Image.error?_ofEnding, hbad hmagic]
  · have hnot : ∀ entry headers, ¬ Elf.Complete file entry headers := by
      intro entry headers h
      rw [hcomplete h] at he
      cases he
    obtain ⟨_, blocks, e', -, -, hfile, -, htruncated⟩ := Elf.ofElf_of_not_complete hnot
    rw [hfile, Image.error?_after, Image.error?_ofEnding] at he
    obtain rfl := Option.some.inj he
    exact htruncated hmagic

namespace Elf

/-- A file with two segments, the first of them around the end of the address
space, and an entry address of more than sixteen bits; given is where the second
segment begins. -/
def twoSegments (second : UInt8) : List UInt8 :=
  magic ++ List.replicate 20 0 ++ [0, 1, 0xE0, 0] ++ List.replicate 17 0 ++ [2] ++
    List.replicate 10 0 ++ [0, 0, 0, 120, 0, 0, 0xFF, 0xFF, 0, 0, 0, 0, 0, 0, 0, 3] ++
    List.replicate 16 0 ++ [0, 0, 0, second, 0, 1, 0, 0, 0, 0, 0, 0, 0, 0, 0, 1] ++
    List.replicate 16 0 ++ [0x20, 0xFE, 0x4F]

lemma complete_twoSegments :
    Complete (twoSegments 122) 0x1E000 [⟨120, 0xFFFF, 3⟩, ⟨122, 0x10000, 1⟩] := by
  have hentry : word (twoSegments 122) 0x18 = .ok 0x1E000 := by decide +kernel
  have hfirst : SegmentAt (twoSegments 122) 0 ⟨120, 0xFFFF, 3⟩ :=
    segmentAt_of_header (by decide +kernel) (by decide +kernel)
  have hsecond : SegmentAt (twoSegments 122) 1 ⟨122, 0x10000, 1⟩ :=
    segmentAt_of_header (by decide +kernel) (by decide +kernel)
  exact ⟨⟨by decide, word_eq_ok_iff.mp hentry, rfl⟩,
    segmentsFrom_cons.mpr ⟨hfirst, segmentsFrom_cons.mpr ⟨hsecond, .nil 2⟩⟩⟩

end Elf

/-- Where the two segments meet, the second one is in memory. -/
theorem load_ofElf_twoSegments :
    Elf.Complete (Elf.twoSegments 122) 0x1E000 [⟨120, 0xFFFF, 3⟩, ⟨122, 0x10000, 1⟩] ∧
      (Image.ofElf (Elf.twoSegments 122)).error? = none ∧
        (Core.initial.load (Image.ofElf (Elf.twoSegments 122))).registers.pc = 0xE000 ∧
          (Core.initial.load (Image.ofElf (Elf.twoSegments 122))).memory.readBlock 0xFFFF 3 =
            [0x20, 0x4F, 0x4F] := by
  obtain ⟨haccepted, hload, -, -⟩ := load_ofElf (Elf.twoSegments 122)
  obtain ⟨hcore, -⟩ := hload _ _ Elf.complete_twoSegments
  refine ⟨Elf.complete_twoSegments, haccepted.mpr ⟨_, _, Elf.complete_twoSegments⟩, ?_, ?_⟩
  · rw [hcore]
    rfl
  · rw [hcore]
    simp [Core.memory, Memory.writeBlocks, Memory.writeBlock, Memory.readBlock, Memory.read_write,
      Elf.Header.content, Elf.twoSegments, Elf.magic]

end M68HC11
