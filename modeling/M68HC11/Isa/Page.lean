import M68HC11.Text.Hex

/-!
Opcode pages. The first page is selected by no byte at all, each of the
others by a byte of its own in front of the opcode.

* `ofPrebyte?_eq_some_iff`: a byte selects a page exactly if it is that
  page's prebyte.
-/

namespace M68HC11

/-- A page of opcodes. -/
inductive Page
  | primary
  | page2
  | page3
  | page4
  deriving DecidableEq, Repr

namespace Page

/-- The byte that selects a page, if one is needed. -/
def prebyte? : Page → Option UInt8
  | primary => none
  | page2 => some 0x18
  | page3 => some 0x1A
  | page4 => some 0xCD

/-- The page that a byte selects, if it selects one. -/
def ofPrebyte? (b : UInt8) : Option Page :=
  if b = 0x18 then some page2
  else if b = 0x1A then some page3
  else if b = 0xCD then some page4
  else none

/-- How many bytes stand in front of an opcode of the page. -/
def prebyteLength (page : Page) : Nat := if page.prebyte?.isSome then 1 else 0

/-- The page's number in messages; the first page has number zero. -/
def number : Page → Nat
  | primary => 0
  | page2 => 2
  | page3 => 3
  | page4 => 4

/-- The page's name in messages. -/
def text (page : Page) : String :=
  match page.prebyte? with
  | none => s!"page {page.number}"
  | some b => s!"page {page.number} (prefix " ++ String.ofList (Text.Hex.markedByte b) ++ ")"

/-- A byte selects a page exactly if it is the page's prebyte. -/
theorem ofPrebyte?_eq_some_iff {b : UInt8} {page : Page} :
    ofPrebyte? b = some page ↔ page.prebyte? = some b := by
  unfold ofPrebyte?
  by_cases h2 : b = 0x18
  · subst h2; cases page <;> decide
  by_cases h3 : b = 0x1A
  · subst h3; cases page <;> decide
  by_cases h4 : b = 0xCD
  · subst h4; cases page <;> decide
  cases page <;> simp [prebyte?, h2, h3, h4, eq_comm]

end Page

end M68HC11
