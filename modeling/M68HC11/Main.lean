import M68HC11.Command.PathFault
import M68HC11.Command.Report

/-!
The program: it runs the action that its arguments ask for on the files of
the computer.
-/

namespace M68HC11

/-- The number of a failure, which may have been passed on as its negative. -/
def failureNumber (code : UInt32) : Nat :=
  if code < 0x80000000 then code.toNat else (0 - code).toNat

/-- The message about a failure that has a number. -/
def numberedFailure (code : UInt32) (details : String) : String :=
  let number := failureNumber code
  match PathFault.ofNumber? number with
  | some fault => fault.message
  | none => PathFault.numbered details number

/-- The reason for a failed access to a file. -/
def failureReason : IO.Error → String
  | .noFileOrDirectory _ code details | .interrupted _ code details
  | .alreadyExists _ code details | .invalidArgument _ code details
  | .permissionDenied _ code details | .resourceExhausted _ code details
  | .inappropriateType _ code details | .noSuchThing _ code details
  | .otherError code details | .resourceBusy code details | .resourceVanished code details
  | .unsupportedOperation code details | .hardwareFault code details
  | .unsatisfiedConstraints code details | .illegalOperation code details
  | .protocolError code details | .timeExpired code details => numberedFailure code details
  | .unexpectedEof => "unexpected end of file"
  | .userError message => message

/-- The result of an access to a file. -/
def attempt {α : Type} (access : IO α) : IO (Except String α) := do
  try
    return .ok (← access)
  catch e =>
    return .error (failureReason e)

/-- Runs an action on the files of the computer. -/
def perform : Action → IO UInt32
  | .finish output => do
    IO.print output.text
    IO.eprint output.errors
    return output.code
  | .readFile path next => do
    let content ← attempt (IO.FS.readBinFile path)
    perform (next (content.map (·.toList)))
  | .writeFile path bytes next => do
    let result ← attempt (IO.FS.writeBinFile path ⟨bytes.toArray⟩)
    perform (next result)

end M68HC11

/-- Runs the program with the given arguments. -/
def main (arguments : List String) : IO UInt32 := M68HC11.perform (M68HC11.commandAction arguments)
