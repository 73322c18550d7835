import M68HC11.Core
import M68HC11.Text.Quoted

/-!
Notices: what a machine tells the outside, as data.

* `LogEntry` is a line for the log, with its level and its message;
* `Notice` is a log line or a call to one of those who listen: an observer of
  traps, the listener for halts, or a display that is refreshed.
-/

namespace M68HC11

/-- How important a log line is. -/
inductive LogLevel
  | warning
  | debug
  deriving DecidableEq, Repr

/-- A line for the log. -/
inductive LogEntry
  /-- A fault. -/
  | fault (f : Fault)
  /-- A breakpoint has halted the machine. -/
  | breakpointHalt (address : UInt16)
  /-- A display was registered. -/
  | displayRegistered (name : String)
  /-- A display was refused because its name is taken. -/
  | displayTaken (name : String)
  /-- A segment of an image leaves the address space. -/
  | segmentMisfit (index : Nat) (address : Nat)
  /-- A row of a memory dump has characters that are no digits. -/
  | malformedRow (row : List Char)
  /-- The pacing of a machine stopped at a breakpoint. -/
  | pacingPaused (address : UInt16)
  deriving DecidableEq, Repr

namespace LogEntry

/-- The level of a log line. -/
def level : LogEntry → LogLevel
  | fault _ | segmentMisfit .. | malformedRow _ => .warning
  | breakpointHalt _ | displayRegistered _ | displayTaken _ | pacingPaused _ => .debug

/-- The message of a log line. -/
def message : LogEntry → String
  | fault f => f.message
  | breakpointHalt address =>
    "breakpoint halt at " ++ String.ofList (Text.Hex.markedWord address)
  | displayRegistered name => "observer " ++ Text.quoteString name ++ " registered"
  | displayTaken name => "observer " ++ Text.quoteString name ++ " already registered"
  | segmentMisfit index address =>
    s!"ELF segment {index} at " ++ String.ofList (Text.Hex.markedNumber address) ++
      " does not fit the 16-bit address space"
  | malformedRow row => "skipping malformed dump row " ++ String.ofList (Text.quote row)
  | pacingPaused address =>
    "pacing paused by breakpoint at " ++ String.ofList (Text.Hex.markedWord address)

end LogEntry

/-- Something that the outside is told. -/
inductive Notice
  /-- A line for the log. -/
  | log (entry : LogEntry)
  /-- An observer hears of an access to an address it has trapped. -/
  | trapped (observer : String) (kind : AccessKind) (address instruction : UInt16)
  /-- The listener for halts hears of a halt. -/
  | halted (listener : String) (address : UInt16)
  /-- A display is shown the state of the core. -/
  | refreshed (display : String) (state : Core)
  deriving DecidableEq

/-- The log lines about faults. -/
def faultNotices (faults : List Fault) : List Notice := faults.map fun f => .log (.fault f)

end M68HC11
