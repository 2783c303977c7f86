import CallTree.Settings.Yaml.Cursor
import CallTree.Text.Digits

/-!
# Scalars in a text of settings

A scalar is plain, in quotes, or a block of lines.  Plain and quoted scalars may
go on over several lines, which are folded: a single line break is a space, and
several are one fewer.

Every function takes the place where the scalar begins, and gives its text and
the place after it, or nothing where it is malformed.  `indent` is the column
that lines of the scalar have to reach.
-/

namespace CallTree.Settings.Yaml

/-- What stands between two pieces of a scalar. -/
inductive Gap where
  | blanks (s : List Char)
  /-- A line break, and as many empty lines after it. -/
  | lines (empty : Nat)
  /-- A line break that does not count, and as many empty lines after it. -/
  | joined (empty : Nat)

/-- What a gap adds to the text of a scalar. -/
def Gap.text : Gap → List Char
  | .blanks s => s
  | .lines 0 => [' ']
  | .lines n => List.replicate n '\n'
  | .joined n => List.replicate n '\n'

/-- The gap after one more line break. -/
def Gap.addBreak : Gap → Gap
  | .blanks _ => .lines 0
  | .lines n => .lines (n + 1)
  | .joined n => .joined (n + 1)

/-! ### Plain scalars -/

/-- Whether a character ends a plain scalar; a colon does before a gap. -/
def endsPlain (flow : Bool) (c : Char) (after : List Char) : Bool :=
  isBlank c || c == '\n' || (flow && isFlowMark c) ||
    (c == ':' && (atGap after || (flow && atFlowMark after)))

/-- The place after the characters of a plain scalar that come next. -/
def skipPlain (flow : Bool) (c : Cursor) : Cursor :=
  match _h : c.rest with
  | [] => c
  | ch :: after => if endsPlain flow ch after then c else skipPlain flow c.step
termination_by c.rest.length
decreasing_by exact Cursor.length_step _h

/-- The gap in a plain scalar that begins here, and the place after it.  A tab
may not set text in. -/
def plainGap (indent : Int) : (fuel : Nat) → Gap → Cursor → Option (Gap × Cursor)
  | 0, _, _ => none
  | fuel + 1, gap, c =>
      match c.rest with
      | [] => some (gap, c)
      | ch :: _ =>
          if isBlank ch then
            match gap with
            | .blanks s => plainGap indent fuel (.blanks (s ++ [ch])) c.step
            | gap =>
                if ch == '\t' && c.column < indent then do
                  let next ← c.skipGap
                  if atBreak next.rest then plainGap indent fuel gap next else none
                else plainGap indent fuel gap c.step
          else if ch == '\n' then plainGap indent fuel gap.addBreak c.step
          else some (gap, c)

/-- The rest of a plain scalar after `text` and a gap. -/
def plainFrom (flow : Bool) (indent : Int) : (fuel : Nat) → (text : List Char) → Gap → Cursor →
    Option (List Char × Cursor)
  | 0, _, _, _ => none
  | fuel + 1, text, gap, c =>
      if c.atDocumentMark || c.rest.head? = some '#' then some (text, c)
      else if flow && c.rest.head? = some '-' && atFlowMark c.rest.tail then none
      else
        let next := skipPlain flow c
        let text := if next.index = c.index then text else text ++ gap.text ++ c.between next
        match next.rest with
        | [] => some (text, next)
        | ch :: _ =>
            if isBlank ch || ch == '\n' then do
              let (gap, after) ← plainGap indent (next.rest.length + 1) (.blanks []) next
              if !flow && after.column < indent then some (text, after)
              else plainFrom flow indent fuel text gap after
            else some (text, next)

/-- A plain scalar. -/
def plain (flow : Bool) (indent : Int) (c : Cursor) : Option (List Char × Cursor) :=
  if flow && c.column < indent then none
  else plainFrom flow indent (c.rest.length + 1) [] (.blanks []) c

/-! ### Scalars in quotes -/

/-- The character that a letter after a backslash stands for. -/
def escape? (c : Char) : Option Char :=
  [('0', '\x00'), ('a', '\x07'), ('b', '\x08'), ('t', '\t'), ('\t', '\t'), ('n', '\n'),
    ('v', '\x0b'), ('f', '\x0c'), ('r', '\r'), ('e', '\x1b'), (' ', ' '), ('"', '"'), ('/', '/'),
    ('\\', '\\'), ('N', '\u0085'), ('_', '\u00a0'), ('L', '\u2028'), ('P', '\u2029')].lookup c

/-- How many digits follow a letter after a backslash. -/
def escapeLength? (c : Char) : Option Nat :=
  [('x', 2), ('u', 4), ('U', 8)].lookup c

/-- The character with the number that digits write. -/
def numbered? (digits : List Char) : Option Char :=
  match Text.someNumberIn 16 digits with
  | some n => if n.isValidChar then some (Char.ofNat n) else none
  | none => none

/-- The character that an escape stands for, and how long the escape is. -/
def readEscape (s : List Char) : Option (Char × Nat) :=
  match s with
  | [] => none
  | letter :: rest =>
      match escape? letter, escapeLength? letter with
      | some c, _ => some (c, 2)
      | none, some length =>
          if rest.length < length then none
          else (numbered? (rest.take length)).map fun c => (c, length + 2)
      | none, none => none

/-- The text up to a gap or the closing quote, after `text`, and whether the
gap is a line break that does not count. -/
def quotedRun (quote : Char) : (fuel : Nat) → (text : List Char) → Cursor →
    Option (List Char × Bool × Cursor)
  | 0, _, _ => none
  | fuel + 1, text, c =>
      match c.rest with
      | [] => some (text, false, c)
      | ch :: rest =>
          if isBlank ch || ch == '\n' then some (text, false, c)
          else if ch == quote then
            if quote == '\'' && rest.head? = some '\'' then
              quotedRun quote fuel (text ++ ['\'']) (c.steps 2)
            else some (text, false, c)
          else if ch == '\\' && quote == '"' then
            if rest.head? = some '\n' then some (text, true, c.steps 2)
            else do
              let (escaped, length) ← readEscape rest
              quotedRun quote fuel (text ++ [escaped]) (c.steps length)
          else quotedRun quote fuel (text ++ [ch]) c.step

/-- The gap in a quoted scalar that begins here, and the place after it.  A tab
may not set text in. -/
def quotedGap (indent : Int) : (fuel : Nat) → Gap → Cursor → Option (Gap × Cursor)
  | 0, _, _ => none
  | fuel + 1, gap, c =>
      match c.rest with
      | [] => some (gap, c)
      | ch :: _ =>
          if isBlank ch then
            match gap with
            | .blanks s => quotedGap indent fuel (.blanks (s ++ [ch])) c.step
            | gap =>
                if ch == '\t' && c.column < indent then none else quotedGap indent fuel gap c.step
          else if ch == '\n' then quotedGap indent fuel gap.addBreak c.step
          else some (gap, c)

/-- The rest of a quoted scalar after `text`. -/
def quotedFrom (quote : Char) (indent : Int) : (fuel : Nat) → (text : List Char) → Cursor →
    Option (List Char × Cursor)
  | 0, _, _ => none
  | fuel + 1, text, c =>
      if c.atDocumentMark || c.rest.isEmpty || c.column < indent then none
      else do
        let (text, joined, next) ← quotedRun quote (c.rest.length + 1) text c
        if next.rest.head? = some quote then some (text, next.step)
        else do
          let start := if joined then Gap.joined 0 else Gap.blanks []
          let (gap, after) ← quotedGap indent (next.rest.length + 1) start next
          quotedFrom quote indent fuel (text ++ gap.text) after

/-- Whether a text may follow a quoted scalar: it ends the line, separates parts
of a flow collection, or makes the scalar a key. -/
def mayFollowQuoted (flow oneLine : Bool) (s : List Char) : Bool :=
  match s with
  | [] => true
  | c :: _ =>
      c == '\n' || (flow && (c == ',' || c == ']' || c == '\x7d')) ||
        (c == ':' && (flow || oneLine))

/-- A scalar in quotes. -/
def quoted (flow : Bool) (indent : Int) (c : Cursor) : Option (List Char × Cursor) := do
  let quote ← c.rest.head?
  let (text, next) ← quotedFrom quote indent (c.rest.length + 1) [] c.step
  let next ← next.skipGap
  if mayFollowQuoted flow (next.line == c.line) next.rest then some (text, next) else none

/-! ### Blocks of lines -/

/-- What becomes of the line breaks at the end of a block. -/
inductive Chomping where
  | strip
  | clip
  | keep
deriving DecidableEq

/-- What a mark says about the line breaks at the end of a block. -/
def chomping? (c : Char) : Option Chomping :=
  if c == '-' then some .strip else if c == '+' then some .keep else none

/-- What stands behind the mark of a block: how its line breaks end, and how far
it is set in where that is said. -/
def blockHeader (c : Cursor) : Option (Chomping × Nat × Cursor) :=
  let digitOf (c : Char) : Option Nat := if c.isDigit then some (c.toNat - '0'.toNat) else none
  match c.rest with
  | [] => some (.clip, 0, c)
  | a :: rest =>
      match chomping? a with
      | some chomping =>
          match rest.head?.bind digitOf with
          | some 0 => none
          | some n => some (chomping, n, c.steps 2)
          | none => some (chomping, 0, c.step)
      | none =>
          match digitOf a with
          | some 0 => none
          | some n =>
              match rest.head?.bind chomping? with
              | some chomping => some (chomping, n, c.steps 2)
              | none => some (.clip, n, c.step)
          | none => some (.clip, 0, c)

/-- The place after spaces up to a column. -/
def skipSpaces (limit : Option Nat) (c : Cursor) : Cursor :=
  match _h : c.rest with
  | [] => c
  | ch :: _ =>
      if ch == ' ' && limit.all (c.column < ·) then skipSpaces limit c.step else c
termination_by c.rest.length
decreasing_by exact Cursor.length_step _h

/-- Empty lines and the spaces before a line of a block: how many lines, the
furthest column of spaces, and the place after them. -/
def blockIndent (limit : Option Nat) : (fuel empty furthest : Nat) → Cursor → Nat × Nat × Cursor
  | 0, empty, furthest, c => (empty, furthest, c)
  | fuel + 1, empty, furthest, c =>
      let next := skipSpaces limit c
      let furthest := max furthest next.column
      if next.rest.head? = some '\n' then blockIndent limit fuel (empty + 1) furthest next.step
      else (empty, furthest, next)

/-- The lines of a block after `text`.  `started` says whether a line break is
owed, `empty` how many empty lines follow it, and `blank` whether the line
before begins with a blank.  Gives the text, what is owed, and the place after
the block. -/
def blockLines (literal : Bool) (indent : Nat) : (fuel : Nat) → (text : List Char) →
    (started : Bool) → (empty : Nat) → (blank : Bool) → Cursor →
    List Char × Bool × Nat × Cursor
  | 0, text, started, empty, _, c => (text, started, empty, c)
  | fuel + 1, text, started, empty, blank, c =>
      if c.column != indent || c.rest.isEmpty || (indent == 0 && c.atMarks '.') then
        (text, started, empty, c)
      else
        let nextBlank := c.rest.head?.any isBlank
        let between :=
          if !literal && started && !blank && !nextBlank then (Gap.lines empty).text
          else List.replicate (empty + if started then 1 else 0) '\n'
        let next := c.skipLine
        let text := text ++ between ++ c.between next
        if next.rest.isEmpty then (text, false, 0, next)
        else
          let (empty, _, after) := blockIndent (some indent) (next.rest.length + 1) 0 0 next.step
          blockLines literal indent fuel text true empty nextBlank after

/-- A block of lines, whose mark stands at the given place.  `outer` is the
column of what it stands in. -/
def block (literal : Bool) (outer : Int) (c : Cursor) : Option (List Char × Cursor) := do
  let (chomping, increment, afterHeader) ← blockHeader c.step
  let endOfHeader ← afterHeader.skipGap
  if !atBreak endOfHeader.rest then none
  let start := endOfHeader.step
  if start.rest.head? = some '\t' then none
  let fixed : Option Nat :=
    if increment = 0 then none else some ((if 0 ≤ outer then outer.toNat else 0) + increment)
  let (empty, furthest, first) := blockIndent fixed (start.rest.length + 1) 0 0 start
  let least := if 0 < outer then 1 else 0
  let indent := fixed.getD (max (max furthest (outer + 1).toNat) least)
  if first.rest.isEmpty then
    let text := match chomping with
      | .strip => []
      | .clip => ['\n']
      | .keep => List.replicate (max empty 1) '\n'
    some (if first.line = c.line then [] else text, first)
  else if first.column < indent && outer < first.column then none
  else
    let (text, started, empty, after) :=
      blockLines literal indent (first.rest.length + 1) [] false empty false first
    let ending :=
      if chomping = .strip then []
      else
        (if started then ['\n'] else []) ++
          (if after.rest.isEmpty && max indent 1 ≤ after.column then ['\n'] else []) ++
          (if chomping = .keep then List.replicate empty '\n' else [])
    some (text ++ ending, after)

end CallTree.Settings.Yaml
