import M68HC11.Image.Format
import M68HC11.Pacing.Config

/-!
The command line: commands with their options.

Options may stand in any order, and of an option that is given twice the last
value counts, except that breakpoints are collected. `Grammar` says which
options with values a command has; `Draft.read` reads a command's arguments
under a grammar.

* `readAddress` reads an address: hexadecimal behind `0x`, `0X` or a dollar
  sign, decimal otherwise;
* `readDisassemble`, `readRun` and `readConvert` read the arguments of one
  command, `CommandLine.read` a whole command line.
-/

namespace M68HC11

/-- Why a command line makes no sense. -/
inductive UsageError
  | missingCommand
  | unknownCommand (name : String)
  | unknownOption (name : String)
  | missingValue (option : String)
  | unknownFormat (name : String)
  | invalidAddress (text : String)
  | invalidCount (text : String)
  | invalidCycles (text : String)
  | multipleInputs
  | missingInput
  | missingOutput
  /-- The command was asked for help. -/
  | helpWanted
  deriving DecidableEq, Repr

/-- The message about an error; a command that is asked for help has none. -/
def UsageError.message : UsageError → String
  | missingCommand => "missing command"
  | unknownCommand name => "unknown command: " ++ name
  | unknownOption name => "unknown option: " ++ name
  | missingValue option => "missing value for " ++ option
  | unknownFormat name => "unknown format: " ++ name
  | invalidAddress text => "invalid address: " ++ text
  | invalidCount text => "invalid count: " ++ text
  | invalidCycles text => "invalid cycle count: " ++ text
  | multipleInputs => "multiple input paths provided"
  | missingInput => "missing input path"
  | missingOutput => "missing output path (-o)"
  | helpWanted => ""

/-! ### Values -/

/-- Reads an address. -/
def readAddress (text : String) : Except UsageError UInt16 :=
  let value := match text.toList with
    | '0' :: 'x' :: digits => Text.Numeral.read? 16 65536 digits
    | '0' :: 'X' :: digits => Text.Numeral.read? 16 65536 digits
    | '$' :: digits => Text.Numeral.read? 16 65536 digits
    | digits => Text.Numeral.read? 10 65536 digits
  match value with
  | some n => .ok (UInt16.ofNat n)
  | none => .error (.invalidAddress text)

/-- Reads a number of instructions. -/
def readCount (text : String) : Except UsageError Nat :=
  match Text.Numeral.read? 10 UInt64.size text.toList with
  | some n => .ok n
  | none => .error (.invalidCount text)

/-- Reads a number of cycles. -/
def readCycles (text : String) : Except UsageError UInt64 :=
  match Text.Numeral.read? 10 UInt64.size text.toList with
  | some n => .ok (UInt64.ofNat n)
  | none => .error (.invalidCycles text)

/-- Reads the name of a format. -/
def readFormat (text : String) : Except UsageError ImageFormat :=
  match ImageFormat.ofName? text with
  | some format => .ok format
  | none => .error (.unknownFormat text)

/-! ### Settings -/

/-- How an image is to be read. -/
structure ImageSettings where
  /-- The format, if it is not to be told from the path. -/
  format? : Option ImageFormat
  /-- Where raw bytes go, and where execution begins unless the image says. -/
  origin : UInt16
  deriving DecidableEq, Repr

/-- The format that the path stands for, and the origin zero. -/
def ImageSettings.standard : ImageSettings := ⟨none, 0⟩

/-- How an image is to be listed. -/
structure DisassembleSettings where
  image : ImageSettings
  /-- Where the listing begins, if not at the entry of the image. -/
  start? : Option UInt16
  /-- How many instructions to list. -/
  count : Nat
  deriving DecidableEq, Repr

/-- Sixteen instructions from the entry of the image on. -/
def DisassembleSettings.standard : DisassembleSettings := ⟨.standard, none, 16⟩

/-- How an image is to be run. -/
structure RunSettings where
  image : ImageSettings
  /-- The value of the cycle counter at which the run ends. -/
  cycles : UInt64
  /-- Breakpoints on execution. -/
  breaks : List UInt16
  readBreaks : List UInt16
  writeBreaks : List UInt16
  deriving DecidableEq, Repr

/-- A second's worth of cycles without breakpoints. -/
def RunSettings.standard : RunSettings := ⟨.standard, PacingConfig.standard.clock, [], [], []⟩

/-- Where a dump is to be written to. -/
structure ConvertSettings where
  output? : Option String
  deriving DecidableEq, Repr

/-- No place to write to. -/
def ConvertSettings.standard : ConvertSettings := ⟨none⟩

/-! ### Grammars -/

/-- An option with a value. -/
structure ValuedOption (α : Type) where
  /-- The option's name in the message that its value is missing. -/
  name : String
  /-- The settings with the value of the option put in. -/
  put : α → String → Except UsageError α

/-- The options with values that a command has, by what they are written
as. -/
abbrev Grammar (α : Type) := String → Option (ValuedOption α)

/-- The options about images. -/
def imageGrammar : Grammar ImageSettings := fun text =>
  if text = "--format" ∨ text = "-f" then
    some ⟨"--format", fun s value => (readFormat value).map fun f => { s with format? := some f }⟩
  else if text = "--org" then
    some ⟨"--org", fun s value => (readAddress value).map fun a => { s with origin := a }⟩
  else none

/-- The options about images as options of a command that has them among its
settings. -/
def ValuedOption.lift {α β : Type} (get : β → α) (set : β → α → β) (o : ValuedOption α) :
    ValuedOption β :=
  ⟨o.name, fun s value => (o.put (get s) value).map (set s)⟩

/-- The options of the command that lists an image. -/
def disassembleGrammar : Grammar DisassembleSettings := fun text =>
  match imageGrammar text with
  | some o => some (o.lift (·.image) fun s image => { s with image })
  | none =>
    if text = "--start" then
      some ⟨"--start", fun s value =>
        (readAddress value).map fun a => { s with start? := some a }⟩
    else if text = "--count" then
      some ⟨"--count", fun s value => (readCount value).map fun n => { s with count := n }⟩
    else none

/-- The options of the command that runs an image. -/
def runGrammar : Grammar RunSettings := fun text =>
  match imageGrammar text with
  | some o => some (o.lift (·.image) fun s image => { s with image })
  | none =>
    if text = "--cycles" then
      some ⟨"--cycles", fun s value => (readCycles value).map fun n => { s with cycles := n }⟩
    else if text = "--break" then
      some ⟨"--break", fun s value =>
        (readAddress value).map fun a => { s with breaks := s.breaks ++ [a] }⟩
    else if text = "--read-break" then
      some ⟨"--read-break", fun s value =>
        (readAddress value).map fun a => { s with readBreaks := s.readBreaks ++ [a] }⟩
    else if text = "--write-break" then
      some ⟨"--write-break", fun s value =>
        (readAddress value).map fun a => { s with writeBreaks := s.writeBreaks ++ [a] }⟩
    else none

/-- The options of the command that converts a dump. -/
def convertGrammar : Grammar ConvertSettings := fun text =>
  if text = "-o" ∨ text = "--output" then
    some ⟨"-o", fun _ value => .ok ⟨some value⟩⟩
  else none

/-! ### Arguments -/

/-- What has been read of a command's arguments. -/
structure Draft (α : Type) where
  input? : Option String
  verbose : Bool
  settings : α
  deriving DecidableEq, Repr

namespace Draft

variable {α : Type}

/-- Takes an argument as the input's path. -/
def putInput (d : Draft α) (text : String) : Except UsageError (Draft α) :=
  if text.toList.head? = some '-' then .error (.unknownOption text)
  else match d.input? with
    | some _ => .error .multipleInputs
    | none => .ok { d with input? := some text }

/-- Reads arguments. -/
def read (g : Grammar α) (d : Draft α) : List String → Except UsageError (Draft α)
  | [] => .ok d
  | text :: rest =>
    if text = "--help" ∨ text = "-h" then .error .helpWanted
    else if text = "--verbose" ∨ text = "-v" then read g { d with verbose := true } rest
    else match g text with
      | some option =>
        match rest with
        | [] => .error (.missingValue option.name)
        | value :: rest =>
          match option.put d.settings value with
          | .error e => .error e
          | .ok settings => read g { d with settings } rest
      | none =>
        match d.putInput text with
        | .error e => .error e
        | .ok d => read g d rest

end Draft

/-- The arguments of a command, complete. -/
structure Invocation (α : Type) where
  input : String
  verbose : Bool
  settings : α
  deriving DecidableEq, Repr

/-- Reads the arguments of a command and makes sure that there is an input. -/
def readInvocation {α : Type} (g : Grammar α) (standard : α) (arguments : List String) :
    Except UsageError (Invocation α) :=
  match Draft.read g ⟨none, false, standard⟩ arguments with
  | .error e => .error e
  | .ok d =>
    match d.input? with
    | none => .error .missingInput
    | some input => .ok ⟨input, d.verbose, d.settings⟩

/-- Reads the arguments of the command that lists an image. -/
def readDisassemble (arguments : List String) :
    Except UsageError (Invocation DisassembleSettings) :=
  readInvocation disassembleGrammar .standard arguments

/-- Reads the arguments of the command that runs an image. -/
def readRun (arguments : List String) : Except UsageError (Invocation RunSettings) :=
  readInvocation runGrammar .standard arguments

/-- Reads the arguments of the command that converts a dump; its setting is
the output's path. -/
def readConvert (arguments : List String) : Except UsageError (Invocation String) :=
  match readInvocation convertGrammar .standard arguments with
  | .error e => .error e
  | .ok i =>
    match i.settings.output? with
    | none => .error .missingOutput
    | some output => .ok ⟨i.input, i.verbose, output⟩

/-- A command line. -/
inductive CommandLine
  | help
  | disassemble (invocation : Invocation DisassembleSettings)
  | run (invocation : Invocation RunSettings)
  | convert (invocation : Invocation String)
  deriving DecidableEq, Repr

/-- Reads a command line without the name of the program. -/
def CommandLine.read : List String → Except UsageError CommandLine
  | [] => .error .missingCommand
  | command :: arguments =>
    if command = "--help" ∨ command = "-h" then .ok .help
    else if command = "disasm" then (readDisassemble arguments).map .disassemble
    else if command = "run" then (readRun arguments).map .run
    else if command = "hexdump" then (readConvert arguments).map .convert
    else .error (.unknownCommand command)

end M68HC11
