import M68HC11.Image.Basic

/-!
Images in the executable and linkable format, with big-endian words of 32
bits.

Behind the identification come the entry address and the number of segments,
and behind those the headers of the segments, of 32 bytes each. Every segment
is copied from the file to its virtual address; of addresses the lower sixteen
bits count.

* `Image.ofElf` reads an image; `Elf.Header.block?` is one segment.
-/

namespace M68HC11

namespace Elf

/-- The bytes that the file begins with. -/
def magic : List UInt8 := [0x7F, 0x45, 0x4C, 0x46]

/-- Where the entry address stands. -/
def entryOffset : Nat := 0x18

/-- Where the number of segments stands, in one byte. -/
def countOffset : Nat := 0x2D

/-- Where the header of a segment stands. -/
def headerOffset (index : Nat) : Nat := 0x38 + 32 * index

/-- The bytes from one offset to another, if the file has them. -/
def slice? (file : List UInt8) (start stop : Nat) : Option (List UInt8) :=
  if start ≤ stop ∧ stop ≤ file.length then some ((file.drop start).take (stop - start)) else none

/-- The number that bytes stand for, the most significant byte first. -/
def bigEndian (bytes : List UInt8) : Nat := bytes.foldl (fun n b => n * 256 + b.toNat) 0

/-- The word of 32 bits at an offset. -/
def word (file : List UInt8) (offset : Nat) : Except ImageError Nat :=
  match slice? file offset (offset + 4) with
  | some bytes => .ok (bigEndian bytes)
  | none => .error (.truncatedElf offset)

/-- The header of a segment. -/
structure Header where
  /-- Where the bytes of the segment begin in the file. -/
  fileOffset : Nat
  virtualAddress : Nat
  size : Nat
  deriving DecidableEq, Repr

/-- The header of the segment with the given index. -/
def header (file : List UInt8) (index : Nat) : Except ImageError Header :=
  match word file (headerOffset index) with
  | .error e => .error e
  | .ok fileOffset =>
    match word file (headerOffset index + 4) with
    | .error e => .error e
    | .ok virtualAddress =>
      match word file (headerOffset index + 12) with
      | .error e => .error e
      | .ok size => .ok ⟨fileOffset, virtualAddress, size⟩

/-- Whether a segment has an address of its own for every byte. -/
def Header.fits (h : Header) : Bool :=
  h.virtualAddress < 65536 && h.virtualAddress % 65536 + h.size ≤ 65536

/-- The segment with the given index as a block of memory. -/
def Header.block (h : Header) (index : Nat) (file : List UInt8) : Except ImageError Block :=
  let stop := h.fileOffset + h.size
  match slice? file h.fileOffset stop with
  | none => .error (.truncatedElf (min stop file.length))
  | some bytes =>
    .ok ⟨UInt16.ofNat h.virtualAddress, bytes,
      if h.fits then [] else [.segmentMisfit index h.virtualAddress]⟩

/-- Reads so many segments from the given index on; `entry` is the entry
address of the image. -/
def readSegments (file : List UInt8) (entry : UInt16) (index : Nat) : Nat → Image
  | 0 => .ofEnding (.ok (some entry))
  | count + 1 =>
    match header file index with
    | .error e => .ofEnding (.error e)
    | .ok h =>
      match h.block index file with
      | .error e => .ofEnding (.error e)
      | .ok block => (readSegments file entry (index + 1) count).cons block

end Elf

/-- The image that a file in the executable and linkable format holds. -/
def Image.ofElf (file : List UInt8) : Image :=
  if file.take 4 ≠ Elf.magic then .ofEnding (.error .badElfMagic)
  else match Elf.word file Elf.entryOffset with
    | .error e => .ofEnding (.error e)
    | .ok entry =>
      match file[Elf.countOffset]? with
      | none => .ofEnding (.error (.truncatedElf Elf.countOffset))
      | some count => Elf.readSegments file (UInt16.ofNat entry) 0 count.toNat

end M68HC11
