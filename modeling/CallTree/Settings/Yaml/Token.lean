import CallTree.Settings.Yaml.Scalar

/-!
# Tokens of a text of settings

A text of settings is cut into tokens.  What is set in further than the line
before opens a collection, and what is set in less closes it, so that tokens
tell the structure without columns.  A key is known by the colon after it: the
token that makes it one is put before it when the colon is met.

* `Token.ofText?` — the tokens of a text, nothing where it is malformed.
-/

namespace CallTree.Settings.Yaml

/-- A token of a text of settings. -/
inductive Token where
  | version
  /-- A name for the beginnings of tags. -/
  | tagName (handle start : String)
  | documentStart
  | documentEnd
  | streamEnd
  | blockSequence
  | blockMapping
  | blockEnd
  /-- The dash before an item. -/
  | item
  | flowSequence
  | flowSequenceEnd
  | flowMapping
  | flowMappingEnd
  | comma
  | key
  | value
  | reuse (name : String)
  | anchor (name : String)
  | tag (handle ending : String)
  | scalar (isPlain : Bool) (text : List Char)
deriving DecidableEq, Inhabited

/-- What may turn out to be a key: the place of its token, and where it
stands. -/
structure KeyPlace where
  place : Nat
  /-- Whether nothing but a key may stand there. -/
  required : Bool
  index : Nat
  line : Nat
  column : Nat

/-- A level of indentation. -/
structure Level where
  /-- The column of the level around it. -/
  outer : Int
  /-- Whether a collection is open on it; otherwise it only keeps what follows a
  mark further in than the mark. -/
  isBlock : Bool

/-- How far the cutting of a text has come. -/
structure Scanner where
  cursor : Cursor
  /-- The tokens so far, listed from the last one. -/
  tokens : List Token
  indent : Int
  levels : List Level
  /-- Whether a key may begin here. -/
  keyAllowed : Bool
  /-- What may be a key around the flow collections that are open, innermost
  first. -/
  keys : List (Option KeyPlace)
  flowDepth : Nat
  /-- Where a colon needs no gap after it. -/
  adjacent : Nat
  /-- Whether a flow mapping was opened. -/
  inMapping : Bool
  /-- For every open flow sequence whether it holds a mapping without braces. -/
  sequences : List Bool
  /-- Whether the last token is an anchor or a tag at the beginning of a line. -/
  marginMark : Bool

namespace Scanner

/-- The beginning of a text. -/
def ofText (s : List Char) : Scanner where
  cursor := .ofText s
  tokens := []
  indent := -1
  levels := []
  keyAllowed := true
  keys := [none]
  flowDepth := 0
  adjacent := 0
  inMapping := false
  sequences := []
  marginMark := false

/-- How many flow collections may be open. -/
def maxFlowDepth : Nat := 255

/-- How many characters a key may have. -/
def maxKeyLength : Nat := 1024

/-- Adds a token. -/
def push (t : Token) (s : Scanner) : Scanner :=
  { s with tokens := t :: s.tokens, marginMark := false }

/-- Puts a token before the one with the given number. -/
def insert (place : Nat) (t : Token) (s : Scanner) : Scanner :=
  let after := s.tokens.length - place
  { s with tokens := s.tokens.take after ++ t :: s.tokens.drop after }

/-- Whether nothing around the place is in a flow collection. -/
def inBlock (s : Scanner) : Bool := s.flowDepth == 0

/-! ### Indentation -/

/-- Ends the levels that are further in than a column. -/
def unrollFrom (column : Int) (tokens : List Token) (indent : Int) :
    List Level → List Token × Int × List Level
  | [] => (tokens, indent, [])
  | level :: levels =>
      if column < indent then
        unrollFrom column (if level.isBlock then .blockEnd :: tokens else tokens) level.outer levels
      else (tokens, indent, level :: levels)

/-- Ends the levels that are further in than a column; flow collections have no
levels. -/
def unroll (column : Int) (s : Scanner) : Scanner :=
  if s.inBlock then
    let (tokens, indent, levels) := unrollFrom column s.tokens s.indent s.levels
    { s with
      tokens, indent, levels
      marginMark := s.marginMark && tokens.length == s.tokens.length }
  else s

/-- Ends the levels on which no collection is open. -/
def unrollLoose (s : Scanner) : Scanner :=
  let (loose, levels) := s.levels.span fun level => !level.isBlock
  { s with indent := (loose.getLast?.map (·.outer)).getD s.indent, levels }

/-- Keeps what follows further in than the collection that is open. -/
def rollLoose (s : Scanner) : Scanner :=
  if s.inBlock && s.levels.head?.any (·.isBlock) then
    { s with levels := ⟨s.indent, false⟩ :: s.levels, indent := s.indent + 1 }
  else s

/-- Opens a collection at a column that is further in; its token goes to the
given place, or to the end. -/
def roll (column : Nat) (place : Option Nat) (t : Token) (s : Scanner) : Scanner :=
  if !s.inBlock then s
  else
    let s := match s.levels with
      | level :: levels =>
          if s.indent ≤ (column : Int) && !level.isBlock then
            { s with indent := level.outer, levels }
          else s
      | [] => s
    if s.indent < (column : Int) then
      let s := { s with levels := ⟨s.indent, true⟩ :: s.levels, indent := column }
      match place with
      | some place => s.insert place t
      | none => s.push t
    else s

/-! ### Keys -/

/-- Gives up what can no longer be a key; fails where it has to be one. -/
def dropStale (s : Scanner) : Option Scanner :=
  if s.inBlock then
    let isStale (k : KeyPlace) : Bool :=
      k.line < s.cursor.line || k.index + maxKeyLength < s.cursor.index
    if s.keys.any fun key => key.any fun k => isStale k && k.required then none
    else some { s with keys := s.keys.map fun key => key.filter fun k => !isStale k }
  else some s

/-- Notes that the next token may be a key. -/
def noteKey (s : Scanner) : Scanner :=
  if s.keyAllowed then
    let required :=
      s.inBlock && s.indent == (s.cursor.column : Int) && s.levels.head?.any (·.isBlock)
    let key : KeyPlace :=
      ⟨s.tokens.length, required, s.cursor.index, s.cursor.line, s.cursor.column⟩
    { s with keys := some key :: s.keys.tail }
  else s

/-- Gives up what may be a key here; fails where it has to be one. -/
def removeKey (s : Scanner) : Option Scanner :=
  match s.keys with
  | some key :: keys => if key.required then none else some { s with keys := none :: keys }
  | _ => some s

/-! ### Gaps -/

/-- Moves on, with blanks and a comment after that. -/
def skip (n : Nat) (s : Scanner) : Option Scanner :=
  (s.cursor.steps n).skipGap.map fun cursor => { s with cursor }

/-- Skips blanks, comments and line breaks up to the next token.  A tab may not
set a token in. -/
def skipToToken : (fuel : Nat) → Scanner → Option Scanner
  | 0, _ => none
  | fuel + 1, s =>
      match s.cursor.rest with
      | [] => some s
      | c :: _ =>
          if c == '\t' && !s.levels.isEmpty && s.cursor.atStart && s.cursor.column < s.indent then
            s.cursor.skipGap.bind fun cursor =>
              if atBreak cursor.rest then skipToToken fuel { s with cursor } else none
          else if isBlank c then skipToToken fuel { s with cursor := s.cursor.step }
          else if c == '\n' then
            skipToToken fuel
              { s with cursor := s.cursor.step, keyAllowed := s.keyAllowed || s.inBlock }
          else if c == '#' then skipToToken fuel { s with cursor := s.cursor.skipLine }
          else some s

/-- Skips spaces, comments and line breaks, of which there has to be one. -/
def skipSpacing : (fuel : Nat) → (found : Bool) → Scanner → Option Scanner
  | 0, _, _ => none
  | fuel + 1, found, s =>
      match s.cursor.rest with
      | ' ' :: _ => skipSpacing fuel true { s with cursor := s.cursor.step }
      | '\n' :: _ =>
          skipSpacing fuel true
            { s with cursor := s.cursor.step, keyAllowed := s.keyAllowed || s.inBlock }
      | '#' :: _ => skipSpacing fuel found { s with cursor := s.cursor.skipLine }
      | _ => if found then some s else none

/-- The fuel for going through what is left. -/
def fuel (s : Scanner) : Nat := s.cursor.rest.length + 1

/-! ### Documents -/

/-- Ends everything that is open at a line that separates documents. -/
def closeAll (s : Scanner) : Option Scanner :=
  (s.unroll (-1)).removeKey.map fun s => { s with keyAllowed := false }

/-- A line that separates documents. -/
def fetchDocumentMark (t : Token) (s : Scanner) : Option Scanner := do
  let s ← s.closeAll
  pure (push t { s with cursor := s.cursor.steps 3 })

/-- The end of the text. -/
def fetchEnd (s : Scanner) : Option Scanner :=
  if s.keys.any fun key => key.any (·.required) then none
  else
    let s := unroll (-1) { s with keys := s.keys.map fun _ => none }
    some (push .streamEnd s)

/-- Whether a character may stand in the name of a directive or a tag. -/
def isNameChar (c : Char) : Bool := c.isAlphanum || c == '_' || c == '-'

/-- A number of at most nine digits, and the place after it. -/
def skipNumber (c : Cursor) : Option Cursor :=
  let next := c.skipWhile Char.isDigit
  let length := next.index - c.index
  if 0 < length && length ≤ 9 then some next else none

/-- The handle of a tag; in a directive it has to end in a mark. -/
def readHandle (isDirective : Bool) (c : Cursor) : Option (List Char × Cursor) :=
  match c.rest with
  | '!' :: _ =>
      let next := c.step.skipWhile isNameChar
      let handle := c.between next
      if next.rest.head? = some '!' then some (handle ++ ['!'], next.step)
      else if isDirective && handle != ['!'] then none
      else some (handle, next)
  | _ => none

/-- Whether a character may stand in a tag. -/
def isTagChar (c : Char) : Bool :=
  (isNameChar c && c != '_') || "#;/?:@&=+$._~*'()%".toList.contains c

/-- Whether a character may stand in a tag that is written in full. -/
def isAddressChar (c : Char) : Bool :=
  isTagChar c || c == '!' || c == ',' || c == '[' || c == ']'

/-- The UTF-8 bytes that a tag writes with percent signs, and what follows. -/
def percentBytes : (count : Nat) → List Char → Option (List UInt8 × List Char)
  | 0, s => some ([], s)
  | count + 1, '%' :: a :: b :: rest => do
      let byte := 16 * (← Text.digitIn? 16 a) + (← Text.digitIn? 16 b)
      let (bytes, rest) ← percentBytes count rest
      pure (UInt8.ofNat byte :: bytes, rest)
  | _, _ => none

/-- How many bytes a character has whose first byte is the given one. -/
def byteCount? (first : Nat) : Option Nat :=
  if first < 0x80 then some 1
  else if 0xC0 ≤ first && first < 0xE0 then some 2
  else if 0xE0 ≤ first && first < 0xF0 then some 3
  else if 0xF0 ≤ first && first < 0xF8 then some 4
  else none

/-- The characters of a tag that come next, and the place after them. -/
def readTagText (allowed : Char → Bool) : (fuel : Nat) → (text : List Char) → Cursor →
    Option (List Char × Cursor)
  | 0, _, _ => none
  | fuel + 1, text, c =>
      match c.rest with
      | [] => some (text, c)
      | ch :: _ =>
          if !allowed ch then some (text, c)
          else if ch == '%' then do
            let (first, _) ← percentBytes 1 c.rest
            let count ← byteCount? (first.headD 0).toNat
            let (bytes, _) ← percentBytes count c.rest
            let s ← String.fromUTF8? ⟨bytes.toArray⟩
            readTagText allowed fuel (text ++ s.toList) (c.steps (3 * count))
          else readTagText allowed fuel (text ++ [ch]) c.step

/-- A directive. -/
def fetchDirective (s : Scanner) : Option Scanner := do
  let s ← s.closeAll
  let start := s.cursor.step
  let afterName := start.skipWhile isNameChar
  let name := start.between afterName
  if name.isEmpty || !atGap afterName.rest then none
  let (token, next) ← (
    if name = "YAML".toList then do
      let major ← skipNumber (afterName.skipWhile isBlank)
      if major.rest.head? ≠ some '.' then none
      let minor ← skipNumber major.step
      pure (Token.version, minor)
    else if name = "TAG".toList then do
      let (handle, afterHandle) ← readHandle true (afterName.skipWhile isBlank)
      let beforeStart := afterHandle.skipWhile isBlank
      if !beforeStart.rest.head?.any fun c => isTagChar c || c == '!' then none
      let (text, afterText) ← readTagText isAddressChar (beforeStart.rest.length + 1) [] beforeStart
      if !atGap afterText.rest then none
      pure (Token.tagName (String.ofList handle) (String.ofList text), afterText)
    else pure (Token.tagName "" "", afterName.skipLine))
  let next ← next.skipGap
  if atBreak next.rest then pure (push token { s with cursor := next.step }) else none

/-! ### Collections -/

/-- The opening mark of a flow collection. -/
def fetchOpening (t : Token) (s : Scanner) : Option Scanner := do
  let s := s.noteKey.rollLoose
  if maxFlowDepth ≤ s.flowDepth then none
  let s := { s with keys := none :: s.keys, flowDepth := s.flowDepth + 1, keyAllowed := true }
  let s := if t = .flowMapping then { s with inMapping := true }
    else { s with sequences := false :: s.sequences }
  pure ((← s.skip 1).push t)

/-- Ends a mapping without braces in a flow sequence. -/
def endImplicit (s : Scanner) : Scanner :=
  match s.sequences with
  | true :: rest => push .flowMappingEnd { s with inMapping := false, sequences := false :: rest }
  | _ => s

/-- The closing mark of a flow collection. -/
def fetchClosing (t : Token) (s : Scanner) : Option Scanner := do
  let s ← s.removeKey
  let s := if s.inBlock then s else { s with flowDepth := s.flowDepth - 1, keys := s.keys.tail }
  let s := { s with keyAllowed := false }
  let s := if t = .flowSequenceEnd then
      let s := s.endImplicit
      { s with sequences := s.sequences.tail }
    else s
  let s ← s.skip 1
  let s := if s.inBlock then s else { s with adjacent := s.cursor.index }
  pure (s.push t)

/-- A comma in a flow collection. -/
def fetchComma (s : Scanner) : Option Scanner := do
  let s ← s.removeKey
  let s := endImplicit { s with keyAllowed := true }
  pure ((← s.skip 1).push .comma)

/-- The dash before an item. -/
def fetchItem (s : Scanner) : Option Scanner := do
  if !s.inBlock || !s.keyAllowed then none
  if s.marginMark && s.cursor.column = 0 && -1 < s.indent then none
  let column := s.cursor.column
  let start := s.cursor.step
  let s := roll column none .blockSequence { s with cursor := start }
  let s ← s.skip 0
  let hasTab := (start.between s.cursor).takeWhile isBlank |>.contains '\t'
  let next := s.cursor.rest
  if hasTab && next.head? = some '-' && atGap next.tail then none
  let s := if next.head? = some '\n' || atFlowMark next then s.rollLoose else s
  let s ← s.removeKey
  pure (push .item { s with keyAllowed := true })

/-- The question mark before a key. -/
def fetchKey (s : Scanner) : Option Scanner := do
  if s.inBlock && !s.keyAllowed then none
  let s := if s.inBlock then s.roll s.cursor.column none .blockMapping
    else { s with inMapping := true }
  let s ← s.removeKey
  let s := { s with keyAllowed := s.inBlock, cursor := s.cursor.step }
  let s ← s.skipSpacing s.fuel false
  if s.cursor.rest.head? = some '\t' then none
  pure (s.push .key)

/-- The colon before a value. -/
def fetchValue (s : Scanner) : Option Scanner := do
  let start := s.cursor
  let implicit := !s.sequences.isEmpty && !s.inMapping
  let s := if implicit then { s with sequences := true :: s.sequences.tail } else s
  let s := { s with cursor := start.step }
  let s ← (
    if s.cursor.rest.head? = some '\t' then do
      let next ← s.skip 0
      let blanks := (s.cursor.between next.cursor).takeWhile isBlank
      if !blanks.contains ' ' && next.cursor.rest.head?.any isNameChar then none else pure next
    else pure s)
  match s.keys.head?.join with
  | some key => do
      let s := s.insert key.place .key
      if implicit && key.line < start.line then none
      let s := if implicit then s.insert key.place .flowMapping else s
      let s := (s.roll key.column (some key.place) .blockMapping).rollLoose
      pure (push .value { s with keys := none :: s.keys.tail, keyAllowed := false })
  | none => do
      let s := if implicit then s.push .flowMapping else s
      if s.inBlock && !s.keyAllowed then none
      let s := (s.roll start.column none .blockMapping).rollLoose
      pure (push .value { s with keyAllowed := s.inBlock })

/-! ### Anchors, tags and scalars -/

/-- Whether a character may stand in the name of an anchor. -/
def isAnchorChar (c : Char) : Bool :=
  !(isBlank c || c == '\n' || c == '\uFEFF' || isFlowMark c)

/-- An anchor, or the place where one is used again. -/
def fetchAnchor (isReuse : Bool) (s : Scanner) : Option Scanner :=
  let s := { s.noteKey with keyAllowed := false }
  let start := s.cursor.step
  let next := start.skipWhile isAnchorChar
  let name := String.ofList (start.between next)
  let atMargin := !isReuse && s.cursor.column == 0
  if name = "" then none
  else
    some { push (if isReuse then .reuse name else .anchor name) { s with cursor := next } with
      marginMark := atMargin }

/-- The handle and the ending of a tag, and the place after it. -/
def readTag (c : Cursor) : Option (List Char × List Char × Cursor) := do
  if c.rest.tail.head? = some '<' then
    let start := c.steps 2
    let (text, next) ← readTagText isAddressChar (start.rest.length + 1) [] start
    if next.rest.head? = some '>' then pure ([], text, next.step) else none
  else
    let (handle, next) ← readHandle false c
    let isHandle := 2 ≤ handle.length && handle.getLast? = some '!'
    let (text, after) ← readTagText isTagChar (next.rest.length + 1) [] next
    if isHandle then
      if text.isEmpty then none else pure (handle, text, after)
    else
      match handle.drop 1 ++ text with
      | [] => pure ([], ['!'], after)
      | ending => pure (['!'], ending, after)

/-- A tag. -/
def fetchTag (s : Scanner) : Option Scanner := do
  let s := { s.noteKey with keyAllowed := false }
  let (handle, ending, next) ← readTag s.cursor
  if !atGap next.rest && !(!s.inBlock && atFlowMark next.rest) then none
  let atMargin := s.cursor.column == 0
  pure { push (.tag (String.ofList handle) (String.ofList ending)) { s with cursor := next } with
    marginMark := atMargin }

/-- A plain scalar. -/
def fetchPlain (s : Scanner) : Option Scanner := do
  let s := unrollLoose { s.noteKey with keyAllowed := false }
  let (text, next) ← plain (!s.inBlock) (s.indent + 1) s.cursor
  pure (push (.scalar true text) { s with cursor := next, keyAllowed := next.atStart })

/-- A scalar in quotes. -/
def fetchQuoted (s : Scanner) : Option Scanner := do
  let s := { s.noteKey with keyAllowed := false }
  let (text, next) ← quoted (!s.inBlock) s.indent s.cursor
  let s ← skipToToken (next.rest.length + 1) { s with cursor := next }
  pure (push (.scalar false text) { s with adjacent := s.cursor.index })

/-- A block of lines. -/
def fetchBlock (literal : Bool) (s : Scanner) : Option Scanner := do
  let s := unrollLoose { s.noteKey with keyAllowed := true }
  let (text, next) ← block literal s.indent s.cursor
  pure (push (.scalar false text) { s with cursor := next })

/-! ### All tokens -/

/-- The token at the place, by the character that it begins with. -/
def fetchAt (s : Scanner) (c : Char) (after : List Char) : Option Scanner :=
  if c == '[' then s.fetchOpening .flowSequence
  else if c == '\x7b' then s.fetchOpening .flowMapping
  else if c == ']' then s.fetchClosing .flowSequenceEnd
  else if c == '\x7d' then s.fetchClosing .flowMappingEnd
  else if c == ',' then s.fetchComma
  else if c == '-' && atGap after then s.fetchItem
  else if c == '?' && atGap after then s.fetchKey
  else if c == ':' && (atGap after ||
      (!s.inBlock && (atFlowMark after || s.cursor.index == s.adjacent))) then s.fetchValue
  else if c == '*' then s.fetchAnchor true
  else if c == '&' then s.fetchAnchor false
  else if c == '!' then s.fetchTag
  else if c == '|' && s.inBlock then s.fetchBlock true
  else if c == '>' && s.inBlock then s.fetchBlock false
  else if c == '\'' || c == '"' then s.fetchQuoted
  else if c == '%' || c == '@' || c == '\x60' then none
  else s.fetchPlain

/-- The next token. -/
def fetch (s : Scanner) : Option Scanner := do
  let s ← s.skipToToken s.fuel
  let s ← s.dropStale
  let s := s.unroll s.cursor.column
  match s.cursor.rest with
  | [] => s.fetchEnd
  | c :: after =>
      if s.cursor.column = 0 && c == '%' then s.fetchDirective
      else if s.cursor.atMarks '-' then s.fetchDocumentMark .documentStart
      else if s.cursor.atMarks '.' then do
        let s ← s.fetchDocumentMark .documentEnd
        let s ← s.skip 0
        if atBreak s.cursor.rest then pure s else none
      else if s.cursor.column < s.indent then none
      else s.fetchAt c after

/-- All tokens up to the end of the text. -/
def fetchAll : (fuel : Nat) → Scanner → Option (List Token)
  | 0, _ => none
  | fuel + 1, s => do
      let s ← s.fetch
      if s.tokens.head? = some .streamEnd then pure s.tokens.reverse else fetchAll fuel s

end Scanner

/-- The tokens of a text. -/
def Token.ofText? (s : List Char) : Option (List Token) :=
  (Scanner.ofText s).fetchAll (s.length + 2)

end CallTree.Settings.Yaml
