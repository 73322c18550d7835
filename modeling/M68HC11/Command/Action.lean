/-!
What a command wants from the outside, as data.

An action reads and writes files and ends with an exit code and two texts. It
does not say how files are read and written, so the same action runs on the
files of a computer and on files held in memory.
-/

namespace M68HC11

/-- What a command leaves behind when it ends. -/
structure Output where
  code : UInt32
  /-- The text for the standard output. -/
  text : String
  /-- The text for the standard error output. -/
  errors : String
  deriving DecidableEq, Repr

/-- What a command does next. -/
inductive Action
  /-- It ends. -/
  | finish (output : Output)
  /-- It reads a file and goes on with the bytes, or with the reason why there
  are none. -/
  | readFile (path : String) (next : Except String (List UInt8) → Action)
  /-- It writes a file and goes on, with the reason why it could not. -/
  | writeFile (path : String) (bytes : List UInt8) (next : Except String Unit → Action)

end M68HC11
