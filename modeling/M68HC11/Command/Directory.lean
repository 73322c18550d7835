import M68HC11.Command.Action
import M68HC11.Command.PathFault

/-!
Files held in memory, around a working directory, on which actions run.

Paths are followed piece by piece as a file system does: every piece but the
last has to lead to a directory, and a path with a slash at its end means a
directory. What names there are outside the working directory is not known,
except for those that every system has.

* `Path.ofText` takes a path apart;
* `Directory.follow` follows a path to its last piece, `Directory.read` and
  `Directory.write` read and write the file there;
* `Directory.run` runs an action.
-/

namespace M68HC11

/-! ### Paths -/

/-- A path taken apart. -/
structure Path where
  /-- Whether it begins at the root. -/
  fromRoot : Bool
  /-- The pieces between slashes, without empty ones. -/
  pieces : List String
  /-- Whether it ends in a slash. -/
  slash : Bool
  deriving DecidableEq, Repr

namespace Path

/-- How many bytes a path has at most. -/
def longest : Nat := 4095

/-- Takes a path apart. A path that is empty leads nowhere. -/
def ofText (text : String) : Except PathFault Path :=
  if text = "" then .error .notFound
  else if longest < text.utf8ByteSize then .error .nameTooLong
  else .ok ⟨text.toList.head? = some '/', (text.splitOn "/").filter (· ≠ ""),
    text.toList.getLast? = some '/'⟩

end Path

/-! ### Locations -/

/-- A directory from which locations are counted. -/
inductive Anchor
  /-- The root. -/
  | root
  /-- The directory so many levels above the working directory. -/
  | above (levels : Nat)
  deriving DecidableEq, Repr

/-- A place for a file or a directory. -/
structure Location where
  anchor : Anchor
  /-- The names of the directories on the way, and the name there. -/
  names : List String
  deriving DecidableEq, Repr

namespace Location

/-- The root. -/
def root : Location := ⟨.root, []⟩

/-- The working directory. -/
def working : Location := ⟨.above 0, []⟩

/-- The place of a name in a directory. -/
def child (l : Location) (name : String) : Location := { l with names := l.names ++ [name] }

/-- The directory above; there is none above the root. -/
def parent (l : Location) : Location :=
  if l.names ≠ [] then { l with names := l.names.dropLast }
  else match l.anchor with
    | .root => root
    | .above levels => ⟨.above (levels + 1), []⟩

/-- The directories besides the root that every system has. -/
def standardDirectories : List Location := [root.child "dev", root.child "tmp"]

/-- The file of every system that is always empty. -/
def nullDevice : Location := (root.child "dev").child "null"

end Location

/-! ### Files -/

/-- A file in memory. -/
structure StoredFile where
  location : Location
  bytes : List UInt8
  deriving DecidableEq, Repr

/-- A working directory, with the files in it and those made outside it. -/
structure Directory where
  files : List StoredFile
  deriving DecidableEq, Repr

/-- What there is at a location. -/
inductive PathTarget
  | file (bytes : List UInt8)
  | directory
  | vacant
  deriving DecidableEq, Repr

/-- Where a path leads when its last piece is left to be looked up. -/
inductive PathEnd
  /-- To a directory that is known to be there. -/
  | directory
  /-- To a name in a directory, which means a directory if there is a slash
  behind it. -/
  | entry (directory : Location) (name : String) (slash : Bool)
  deriving DecidableEq, Repr

namespace Directory

/-- A working directory without files. -/
def empty : Directory := ⟨[]⟩

instance : EmptyCollection Directory := ⟨empty⟩

/-- What there is at a location. -/
def target (d : Directory) (l : Location) : PathTarget :=
  if l.names = [] ∨ l ∈ Location.standardDirectories then .directory
  else if l = Location.nullDevice then .file []
  else match d.files.find? (·.location = l) with
    | some f => .file f.bytes
    | none => .vacant

/-- How many bytes a name has at most. -/
def longestName : Nat := 255

/-- What there is under a name in a directory. -/
def lookUp (d : Directory) (l : Location) (name : String) : Except PathFault PathTarget :=
  if longestName < name.utf8ByteSize then .error .nameTooLong else .ok (d.target (l.child name))

/-- The directory that a piece leads to from a directory. -/
def enter (d : Directory) (l : Location) (piece : String) : Except PathFault Location :=
  if piece = "." then .ok l
  else if piece = ".." then .ok l.parent
  else match d.lookUp l piece with
    | .ok .directory => .ok (l.child piece)
    | .ok (.file _) => .error .notDirectory
    | .ok .vacant => .error .notFound
    | .error fault => .error fault

/-- Follows pieces from a directory to the last one. -/
def followPieces (d : Directory) (slash : Bool) (l : Location) :
    List String → Except PathFault PathEnd
  | [] => .ok .directory
  | [last] => .ok (if last = "." ∨ last = ".." then .directory else .entry l last slash)
  | piece :: rest =>
    match d.enter l piece with
    | .ok l => d.followPieces slash l rest
    | .error fault => .error fault

/-- Follows a path to its last piece. -/
def follow (d : Directory) (text : String) : Except PathFault PathEnd :=
  match Path.ofText text with
  | .ok path => d.followPieces path.slash (if path.fromRoot then .root else .working) path.pieces
  | .error fault => .error fault

/-- Reads a file. -/
def read (d : Directory) (text : String) : Except PathFault (List UInt8) :=
  match d.follow text with
  | .error fault => .error fault
  | .ok .directory => .error .isDirectory
  | .ok (.entry l name slash) =>
    match d.lookUp l name with
    | .error fault => .error fault
    | .ok .vacant => .error .notFound
    | .ok .directory => .error .isDirectory
    | .ok (.file bytes) => if slash then .error .notDirectory else .ok bytes

/-- The directory with a file made or replaced. What is written to the null
device is lost. -/
def store (d : Directory) (l : Location) (bytes : List UInt8) : Directory :=
  if l = Location.nullDevice then d
  else ⟨d.files.filter (·.location ≠ l) ++ [⟨l, bytes⟩]⟩

/-- Writes a file. A path with a slash at its end is refused before its last
piece is looked up. -/
def write (d : Directory) (text : String) (bytes : List UInt8) : Except PathFault Directory :=
  match d.follow text with
  | .error fault => .error fault
  | .ok .directory => .error .isDirectory
  | .ok (.entry l name slash) =>
    if slash then .error .isDirectory
    else match d.lookUp l name with
      | .error fault => .error fault
      | .ok .directory => .error .isDirectory
      | .ok _ => .ok (d.store (l.child name) bytes)

/-- Runs an action. -/
def run (d : Directory) : Action → Output × Directory
  | .finish output => (output, d)
  | .readFile path next => d.run (next ((d.read path).mapError PathFault.message))
  | .writeFile path bytes next =>
    match d.write path bytes with
    | .ok d => d.run (next (.ok ()))
    | .error fault => d.run (next (.error fault.message))

end Directory

end M68HC11
