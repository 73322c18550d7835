/-!
The parts of a path: its pieces between slashes, the file's name and the
extension.

Empty pieces and pieces of one point do not count, so that slashes at the end
of a path and points between slashes change nothing. The extension is what
follows the last point of a file's name, unless that point is the first
character.
-/

namespace M68HC11.Text

/-- The pieces of a path that count. -/
def pathPieces (path : String) : List String :=
  (path.splitOn "/").filter fun piece => piece ≠ "" ∧ piece ≠ "."

/-- The file's name, which the last piece is unless it leads to the
directory above. -/
def fileName? (path : String) : Option String :=
  (pathPieces path).getLast?.filter (· ≠ "..")

/-- What follows the last point of a file's name; the name's characters are
given last to first, and `tail` are those behind them. -/
def afterPoint? (tail : List Char) : List Char → Option (List Char)
  | [] => none
  | c :: rest =>
    if c = '.' then (if rest.isEmpty then none else some tail) else afterPoint? (c :: tail) rest

/-- The extension of the file's name. -/
def extension? (path : String) : Option String :=
  (fileName? path).bind fun name => (afterPoint? [] name.toList.reverse).map String.ofList

end M68HC11.Text
