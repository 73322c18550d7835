import M68HC11.Command.Action
import M68HC11.Command.Options
import M68HC11.Image.HexDump
import M68HC11.Listing
import M68HC11.Run

/-!
The commands: listing an image, running it, and converting a dump.

* `usage` is the help text;
* `disassembleAction`, `runAction` and `convertAction` are the commands, and
  `commandAction` is the command that a command line asks for.
-/

namespace M68HC11

/-- The help text. -/
def usage : String :=
  "\n".intercalate
    ["Usage: hc11-emu <command> [options]",
      "",
      "Commands:",
      "  disasm  <image> [--start ADDR] [--count N]    Disassemble a program image",
      "  run     <image> [--cycles N] [--break ADDR]   Run until a cycle budget or breakpoint",
      "  hexdump <input> -o <output>                   Convert a monitor dump to binary",
      "",
      "Options:",
      "  -f, --format <s19|elf|bin>  Image format (default: inferred from extension)",
      "      --org <ADDR>            Load address for binary images (default: 0)",
      "      --start <ADDR>          First address to disassemble (default: entry point)",
      "      --count <N>             Instructions to disassemble (default: 16)",
      "      --cycles <N>            Cycle budget for run (default: one second at 2 MHz)",
      "      --break <ADDR>          Halt when PC reaches ADDR (repeatable)",
      "      --read-break <ADDR>     Halt after an instruction reads ADDR (repeatable)",
      "      --write-break <ADDR>    Halt after an instruction writes ADDR (repeatable)",
      "  -o, --output <file>         Binary written by hexdump",
      "  -v, --verbose               Log debug messages to stderr",
      "  -h, --help                  Show this help message",
      "",
      "Addresses accept 0x1000, $1000 or decimal.",
      "",
      "Examples:",
      "  hc11-emu disasm program.s19 --count 32",
      "  hc11-emu run rom.bin --org 0xE000 --break 0xE010",
      "  hc11-emu hexdump capture.txt -o capture.bin",
      ""]

/-! ### Text of the parts of a report -/

/-- A line of text with its end. -/
def line (text : String) : String := text ++ "\n"

/-- A log line, if it is to be seen: debug lines only show on request. -/
def logLine? (verbose : Bool) (entry : LogEntry) : Option String :=
  match entry.level with
  | .warning => some (line ("warning: " ++ entry.message))
  | .debug => if verbose then some (line ("debug: " ++ entry.message)) else none

/-- The log lines that are to be seen. -/
def logText (verbose : Bool) (entries : List LogEntry) : String :=
  String.join (entries.filterMap (logLine? verbose))

/-- The log lines in a journal. -/
def logEntries (journal : Array Notice) : List LogEntry :=
  journal.toList.filterMap fun notice => match notice with
    | .log entry => some entry
    | _ => none

/-- A byte as two capital digits. -/
def capitalByte (b : UInt8) : String := String.ofList (Text.Hex.byte .capital b)

/-- A word as four capital digits. -/
def capitalWord (w : UInt16) : String := String.ofList (Text.Hex.word .capital w)

/-- The line of a listed instruction: its address, its bytes, its text and
its description. -/
def rowText (row : ListingRow) : String :=
  let bytes := " ".intercalate (row.bytes.map capitalByte)
  capitalWord row.address ++ ": " ++ String.ofList (Text.padRight 14 bytes.toList) ++ " " ++
    String.ofList (Text.padRight 24 row.text.toList) ++ " ; " ++ row.description

/-- The flags as eight binary digits. -/
def flagDigits (cc : ConditionCodes) : String :=
  String.ofList ([cc.s, cc.x, cc.h, cc.i, cc.n, cc.z, cc.v, cc.c].map fun flag =>
    if flag then '1' else '0')

/-- The registers on one line. -/
def registerText (r : Registers) : String :=
  "A=" ++ capitalByte r.a ++ " B=" ++ capitalByte r.b ++ " D=" ++ capitalWord r.d ++
    " X=" ++ capitalWord r.x ++ " Y=" ++ capitalWord r.y ++ " SP=" ++ capitalWord r.sp ++
    " PC=" ++ capitalWord r.pc ++ " CCR=" ++ flagDigits r.cc

/-- How a run ended. -/
def endingText (ending : RunEnding) (steps : Nat) : String :=
  match ending with
  | .halted address => s!"Breakpoint at " ++ capitalWord address ++ s!" after {steps} steps"
  | _ => s!"Cycle budget reached after {steps} steps"

/-! ### Commands -/

/-- The end of a command that has failed. -/
def failure (log message : String) : Output := ⟨1, "", log ++ line ("error: " ++ message)⟩

/-- Loads an image into a fresh machine and goes on with it. -/
def withMachine (input : String) (settings : ImageSettings) (verbose : Bool)
    (next : Machine → Output) : Action :=
  .readFile input fun content =>
    let image : Image := match content with
      | .ok bytes =>
        (settings.format?.getD (.ofPath input)).read settings.origin bytes
      | .error reason => .ofEnding (.error (.unreadable reason))
    let m := (Machine.initial.setPc settings.origin).load image
    .finish (match image.error? with
      | some e => failure (logText verbose (logEntries m.journal)) (input ++ ": " ++ e.message)
      | none => next m)

/-- Lists an image. -/
def disassembleAction (i : Invocation DisassembleSettings) : Action :=
  withMachine i.input i.settings.image i.verbose fun m =>
    let start := i.settings.start?.getD m.registers.pc
    let rows := m.memory.listing start i.settings.count
    ⟨0, String.join (rows.map fun row => line (rowText row)),
      logText i.verbose (logEntries m.journal)⟩

/-- The machine with the breakpoints of a run. -/
def RunSettings.prepare (s : RunSettings) (m : Machine) : Machine :=
  let m := s.breaks.foldl Machine.addExecBreak m
  let m := s.readBreaks.foldl (fun m address => m.addDataBreak .read address) m
  s.writeBreaks.foldl (fun m address => m.addDataBreak .write address) m

/-- Runs an image. -/
def runAction (i : Invocation RunSettings) : Action :=
  withMachine i.input i.settings.image i.verbose fun m =>
    let run := (i.settings.prepare m).runUntil i.settings.cycles
    let r := run.machine.registers
    let next := run.machine.memory.row r.pc
    ⟨0,
      line (endingText run.ending run.steps) ++ line (registerText r) ++
        line s!"cycles={r.cycles.toNat}" ++
        line ("next: " ++ capitalWord next.address ++ ": " ++ next.text),
      logText i.verbose (logEntries run.machine.journal)⟩

/-- Converts a dump. -/
def convertAction (i : Invocation String) : Action :=
  .readFile i.input fun content =>
    match content.bind ImageFormat.decodeText with
    | .error reason => .finish (failure "" ("failed to read input: " ++ reason))
    | .ok text =>
      let bytes := HexDump.bytes text.toList
      let log := logText i.verbose (HexDump.log text.toList)
      .writeFile i.settings bytes fun result =>
        .finish (match result with
          | .error reason => failure log ("failed to write output: " ++ reason)
          | .ok _ =>
            ⟨0, line (s!"Converted {i.input} ({bytes.length} bytes) -> {i.settings}"), log⟩)

/-- The command that the arguments of the program ask for. -/
def commandAction (arguments : List String) : Action :=
  match CommandLine.read arguments with
  | .ok .help => .finish ⟨0, line usage, ""⟩
  | .ok (.disassemble i) => disassembleAction i
  | .ok (.run i) => runAction i
  | .ok (.convert i) => convertAction i
  | .error .helpWanted => .finish ⟨1, line usage, ""⟩
  | .error e => .finish ⟨1, "", line ("error: " ++ e.message) ++ line usage⟩

end M68HC11
