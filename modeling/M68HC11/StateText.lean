import M68HC11.Machine

/-!
The state of a machine and of its parts as a line of text.

A part with fields is written as its name and, between braces, the fields with
their values; sets stand between braces and lists between brackets. Numbers
are decimal, and names are quoted.

* `Machine.stateText` is the state of a machine: its registers, breakpoints,
  observers and displays. The memory is left out.
-/

namespace M68HC11

namespace StateText

/-- A number. -/
def decimal (n : Nat) : String := String.ofList (Nat.toDigits 10 n)

/-- A truth value. -/
def truth (value : Bool) : String := if value then "true" else "false"

/-- A field with its value. -/
def field (name value : String) : String := name ++ ": " ++ value

/-- A part with its fields. -/
def part (name : String) (fields : List String) : String :=
  name ++ " \x7b " ++ ", ".intercalate fields ++ " \x7d"

/-- A value that is marked by a name. -/
def marked (name value : String) : String := name ++ "(" ++ value ++ ")"

/-- The members of a list. -/
def list (members : List String) : String := "[" ++ ", ".intercalate members ++ "]"

/-- The members of a set. -/
def set (members : List String) : String := "\x7b" ++ ", ".intercalate members ++ "\x7d"

/-- What stands for the fields that are left out. -/
def omitted : String := ".."

end StateText

open StateText

/-- Whether a machine has halted, and where. -/
def HaltState.stateText : HaltState → String
  | .running => "Running"
  | .pending address => marked "PendingHalt" (decimal address.toNat)
  | .halted address => marked "Halted" (decimal address.toNat)

/-- A handle. -/
def Handle.stateText (h : Handle) : String := marked "ObserverId" (decimal h.number.toNat)

/-- The members of a set of addresses, in ascending order. -/
def AddressSet.stateText (s : AddressSet) : String := set (s.toList.map fun a => decimal a.toNat)

/-- The registers. -/
def Registers.stateText (r : Registers) : String :=
  part "Registers"
    [field "d" (decimal r.d.toNat), field "x" (decimal r.x.toNat), field "y" (decimal r.y.toNat),
      field "sp" (decimal r.sp.toNat), field "pc" (decimal r.pc.toNat),
      field "ccr" (decimal r.cc.toByte.toNat), field "cycles" (decimal r.cycles.toNat),
      field "last_pc" (decimal r.lastPc.toNat)]

/-- The breakpoints, and whether anyone hears of halts. -/
def Breakpoints.stateText (b : Breakpoints) : String :=
  part "BreakpointHandler"
    [field "id" b.owner.stateText, field "exec" b.exec.stateText, field "read" b.read.stateText,
      field "write" b.write.stateText, field "run_state" b.state.stateText,
      field "on_halt" (truth b.listener.isSome)]

/-- The names of the displays, in order. -/
def Displays.stateText (d : Displays) : String := list (d.names.map Text.quoteString)

/-- A machine without its memory. -/
def Machine.stateText (m : Machine) : String :=
  part "Machine"
    [field "regs" m.registers.stateText, field "breakpoints" m.breakpoints.stateText,
      field "trap_observers" (list (m.observers.map fun o => o.1.stateText)),
      field "observers" m.displays.stateText, omitted]

end M68HC11
