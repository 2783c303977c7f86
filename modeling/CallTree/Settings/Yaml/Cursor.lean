/-!
# Places in a text of settings

A `Cursor` is a place in a text: what is left to be read, and where it stands.
Only line feeds end lines; other line breaks are brought into this form before.
-/

namespace CallTree.Settings.Yaml

/-- Spaces and tabs. -/
def isBlank (c : Char) : Bool := c == ' ' || c == '\t'

/-- Whether a character separates the parts of a flow collection. -/
def isFlowMark (c : Char) : Bool :=
  c == ',' || c == '[' || c == ']' || c == '\x7b' || c == '\x7d'

/-- Whether a text is at the end of a line. -/
def atBreak : List Char → Bool
  | [] => true
  | c :: _ => c == '\n'

/-- Whether a text is at a blank or at the end of a line. -/
def atGap : List Char → Bool
  | [] => true
  | c :: _ => isBlank c || c == '\n'

/-- Whether a text is at a character that separates the parts of a flow
collection. -/
def atFlowMark (s : List Char) : Bool := s.head?.any isFlowMark

/-- A place in a text. -/
structure Cursor where
  rest : List Char
  index : Nat
  line : Nat
  column : Nat
  /-- Whether only blanks stand before the place on its line. -/
  atStart : Bool
deriving Inhabited

namespace Cursor

/-- The beginning of a text. -/
def ofText (s : List Char) : Cursor := ⟨s, 0, 1, 0, true⟩

/-- The place after one character. -/
def step (c : Cursor) : Cursor :=
  match c.rest with
  | [] => c
  | ch :: rest =>
      if ch == '\n' then ⟨rest, c.index + 1, c.line + 1, 0, true⟩
      else ⟨rest, c.index + 1, c.line, c.column + 1, c.atStart && isBlank ch⟩

/-- A step leaves out the first character. -/
theorem rest_step {c : Cursor} {ch : Char} {rest : List Char} (h : c.rest = ch :: rest) :
    c.step.rest = rest := by
  unfold step
  rw [h]
  dsimp only
  split <;> rfl

/-- A step leaves less to be read. -/
theorem length_step {c : Cursor} {ch : Char} {rest : List Char} (h : c.rest = ch :: rest) :
    c.step.rest.length < c.rest.length := by
  rw [rest_step h, h]
  exact Nat.lt_succ_self _

/-- The place after several characters. -/
def steps : Nat → Cursor → Cursor
  | 0, c => c
  | n + 1, c => steps n c.step

/-- The place after the characters of a kind that come next. -/
def skipWhile (p : Char → Bool) (c : Cursor) : Cursor :=
  match _h : c.rest with
  | [] => c
  | ch :: _ => if p ch then skipWhile p c.step else c
termination_by c.rest.length
decreasing_by exact length_step _h

/-- The place at the end of the line. -/
def skipLine (c : Cursor) : Cursor := c.skipWhile (· != '\n')

/-- The characters between two places. -/
def between (c later : Cursor) : List Char :=
  c.rest.take (later.index - c.index)

/-- The place after blanks and a comment.  A comment needs a blank before it. -/
def skipGap (c : Cursor) : Option Cursor :=
  let next := c.skipWhile isBlank
  if next.rest.head? = some '#' then
    if next.index = c.index then none else some next.skipLine
  else some next

/-- Whether a line begins here with three times the same mark and nothing
attached to it. -/
def atMarks (mark : Char) (c : Cursor) : Bool :=
  match c.rest with
  | a :: b :: d :: rest => c.column == 0 && a == mark && b == mark && d == mark && atGap rest
  | _ => false

/-- Whether a line begins here that separates documents. -/
def atDocumentMark (c : Cursor) : Bool := c.atMarks '-' || c.atMarks '.'

end Cursor

end CallTree.Settings.Yaml
