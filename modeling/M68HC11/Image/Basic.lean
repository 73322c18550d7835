import M68HC11.Machine

/-!
Program images: what reading an image file comes to.

An image is a list of blocks to be written to memory and either an entry
address, nothing, or the error at which reading ended. Reading is pure; only
loading an image touches a processor. The blocks that were read before an
error are loaded, and the program counter is set only if there was none.

* `Image.load` loads an image into a processor, `Core.load` and `Machine.load`
  into what is built around one.
-/

namespace M68HC11

/-- Why an image could not be read, or not to its end. -/
inductive ImageError
  /-- The file could not be read. -/
  | unreadable (reason : String)
  /-- The line, counted from one, is no record. -/
  | notSRecord (line : Nat)
  /-- A field of the record is no hexadecimal number. -/
  | badHex (line : Nat)
  /-- The record is shorter than it claims to be. -/
  | truncatedRecord (line : Nat)
  /-- The file does not begin as an image in this format has to. -/
  | badElfMagic
  /-- The file ends before the image does. -/
  | truncatedElf (offset : Nat)
  deriving DecidableEq, Repr

/-- The message about an error. -/
def ImageError.message : ImageError → String
  | unreadable reason => "failed to read image: " ++ reason
  | notSRecord line => s!"line {line}: not an S-record"
  | badHex line => s!"line {line}: invalid hex digits"
  | truncatedRecord line => s!"line {line}: record is truncated"
  | badElfMagic => "not an ELF image"
  | truncatedElf offset =>
    "ELF image truncated at offset " ++ String.ofList (Text.Hex.markedNumber offset)

/-- Bytes to be written to consecutive addresses. -/
structure Block where
  address : UInt16
  bytes : List UInt8
  /-- What is logged before the block is written. -/
  remarks : List LogEntry
  deriving DecidableEq, Repr

namespace Block

/-- The memory with the block written to it. -/
def writeTo (b : Block) (m : Memory) : Memory := m.writeBlock b.address b.bytes

/-- What is logged when the block is written. -/
def log (b : Block) : List LogEntry :=
  b.remarks ++ (Memory.blockFaults b.address b.bytes.length).map .fault

end Block

/-- What reading an image file comes to. -/
structure Image where
  blocks : List Block
  /-- The entry address, if the image has one and could be read to its end. -/
  ending : Except ImageError (Option UInt16)

namespace Image

/-- An image that ends at once. -/
def ofEnding (ending : Except ImageError (Option UInt16)) : Image := ⟨[], ending⟩

/-- The image with a block in front. -/
def cons (b : Block) (image : Image) : Image := { image with blocks := b :: image.blocks }

/-- The image of raw bytes at an origin. -/
def ofBytes (origin : UInt16) (bytes : List UInt8) : Image := ⟨[⟨origin, bytes, []⟩], .ok none⟩

/-- The memory with the blocks written to it, in order. -/
def writeTo (image : Image) (m : Memory) : Memory := image.blocks.foldl (fun m b => b.writeTo m) m

/-- What is logged when the image is loaded. -/
def log (image : Image) : List LogEntry := image.blocks.flatMap Block.log

/-- The registers after the image was loaded. -/
def enter (image : Image) (r : Registers) : Registers :=
  match image.ending with
  | .ok (some entry) => { r with pc := entry }
  | _ => r

/-- The error at which reading ended. -/
def error? (image : Image) : Option ImageError :=
  match image.ending with
  | .ok _ => none
  | .error e => some e

/-- The processor with the image loaded. -/
def load (image : Image) (p : Processor) : Processor :=
  ⟨image.enter p.registers, image.writeTo p.memory⟩

end Image

/-- The core with an image loaded. -/
def Core.load (c : Core) (image : Image) : Core := { c with processor := image.load c.processor }

/-- The machine with an image loaded. -/
def Machine.load (m : Machine) (image : Image) : Machine :=
  { m with core := m.core.load image }.tell (image.log.map .log)

end M68HC11
