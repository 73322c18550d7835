/-!
The lines of a text.

A line ends at a line feed, and one carriage return right before the line
feed belongs to the line's end. Text after the last line feed is a line of its
own unless it is empty.
-/

namespace M68HC11.Text

/-- A line without the carriage return that it may end with; the line's
characters are given last to first. -/
def finishLine : List Char → List Char
  | '\r' :: line => line.reverse
  | line => line.reverse

/-- The lines of a text of which the characters `line`, last to first, have
been read since the last line feed. -/
def linesFrom (line : List Char) : List Char → List (List Char)
  | [] => if line.isEmpty then [] else [line.reverse]
  | c :: rest =>
    if c = '\n' then finishLine line :: linesFrom [] rest else linesFrom (c :: line) rest

/-- The lines of a text. -/
def lines (text : List Char) : List (List Char) := linesFrom [] text

end M68HC11.Text
