import M68HC11.Notice
import M68HC11.Text.AsciiCase

/-!
Displays: views of a machine that are refreshed from time to time.

Each display has a name; two displays whose names differ only in the case of
letters from A to Z cannot be registered together. Displays are refreshed in
the order in which they were registered, and each is shown the whole core: the
registers, the memory and the traps.
-/

namespace M68HC11

/-- The registered displays, by name, in order. -/
structure Displays where
  names : List String
  deriving DecidableEq, Repr

namespace Displays

/-- No displays. -/
def empty : Displays := ⟨[]⟩

instance : EmptyCollection Displays := ⟨empty⟩

instance : Inhabited Displays := ⟨empty⟩

/-- Whether a display of that name is registered. -/
def contains (d : Displays) (name : String) : Bool := d.names.any (Text.sameName · name)

/-- Registers a display unless its name is taken. -/
def add (d : Displays) (name : String) : Displays :=
  if d.contains name then d else ⟨d.names ++ [name]⟩

/-- What is logged when a display is to be registered. -/
def addNotice (d : Displays) (name : String) : Notice :=
  .log (if d.contains name then .displayTaken name else .displayRegistered name)

/-- The name under which a display was registered. -/
def find? (d : Displays) (name : String) : Option String := d.names.find? (Text.sameName · name)

/-- Removes a display. -/
def remove (d : Displays) (name : String) : Displays := ⟨d.names.eraseP (Text.sameName · name)⟩

/-- The refreshing of every display with the state of a core. -/
def refresh (d : Displays) (state : Core) : List Notice := d.names.map (.refreshed · state)

end Displays

end M68HC11
