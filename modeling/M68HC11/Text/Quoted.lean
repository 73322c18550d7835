import M68HC11.Text.Hex
import M68HC11.Text.Printable

/-!
Quoted text: a text between double quotes in which every character shows.

Quotes and backslashes stand behind a backslash, tabs, line feeds, carriage
returns and the character zero have an escape of one letter, and every other
character that is not printable is written as its code point in braces.
-/

namespace M68HC11.Text

/-- The code point of a character as an escape in braces. -/
def escapeCodePoint (c : Char) : List Char :=
  "\\u\x7b".toList ++ Hex.number c.toNat ++ ['\x7d']

/-- A character as it stands between quotes. -/
def quoteChar (c : Char) : List Char :=
  match c with
  | '"' => ['\\', '"']
  | '\\' => ['\\', '\\']
  | '\t' => ['\\', 't']
  | '\n' => ['\\', 'n']
  | '\r' => ['\\', 'r']
  | '\x00' => ['\\', '0']
  | c => if isPrintable c then [c] else escapeCodePoint c

/-- A text between double quotes. -/
def quote (text : List Char) : List Char := '"' :: text.flatMap quoteChar ++ ['"']

/-- A string between double quotes. -/
def quoteString (text : String) : String := String.ofList (quote text.toList)

end M68HC11.Text
