import M68HC11.Image.Elf
import M68HC11.Image.SRecord
import M68HC11.Text.AsciiCase
import M68HC11.Text.PathName

/-!
The formats of image files, by the name of the format or of the file.

* `ImageFormat.read` reads the bytes of a file in a format.
-/

namespace M68HC11

/-- A format of image files. -/
inductive ImageFormat
  /-- Text of S-records. -/
  | sRecord
  /-- The executable and linkable format. -/
  | elf
  /-- Raw bytes. -/
  | binary
  deriving DecidableEq, Repr

namespace ImageFormat

/-- The format with a name, in letters of either case. -/
def ofName? (name : String) : Option ImageFormat :=
  let name := Text.lowerAscii name
  if name = "s19" ∨ name = "srec" then some sRecord
  else if name = "elf" then some elf
  else if name = "bin" ∨ name = "binary" then some binary
  else none

/-- The format that the extension of a path stands for. -/
def ofPath (path : String) : ImageFormat :=
  match (Text.extension? path).map Text.lowerAscii with
  | some extension =>
    if extension = "s19" ∨ extension = "s" then sRecord
    else if extension = "elf" then elf
    else binary
  | none => binary

/-- Why bytes that should be text are none. -/
def notText : String := "stream did not contain valid UTF-8"

/-- The text that bytes encode. -/
def decodeText (bytes : List UInt8) : Except String String :=
  match String.fromUTF8? ⟨bytes.toArray⟩ with
  | some text => .ok text
  | none => .error notText

/-- Reads the bytes of an image file. The origin is where raw bytes go. -/
def read (format : ImageFormat) (origin : UInt16) (bytes : List UInt8) : Image :=
  match format with
  | sRecord => match decodeText bytes with
    | .ok text => .ofSRecords text.toList
    | .error reason => .ofEnding (.error (.unreadable reason))
  | elf => .ofElf bytes
  | binary => .ofBytes origin bytes

end ImageFormat

end M68HC11
