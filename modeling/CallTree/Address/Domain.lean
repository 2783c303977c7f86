import CallTree.Address.Direction
import CallTree.Address.JoiningTable
import CallTree.Address.MappingTable
import CallTree.Address.Punycode
import CallTree.Text.Composition

/-!
# Domains

A domain is a list of labels with dots between them.  Its characters are
brought into one form, labels outside ASCII are checked and written in ASCII,
and labels that are given in that writing have to be what it produces.

* `Domain.toAscii?` — a domain in ASCII.
-/

namespace CallTree.Address.Domain

/-- What a character of a domain stands for; nothing where it may not stand
there. -/
def mapChar (c : Char) : Option (List Char) :=
  match Text.CodeRow.find? mappedRows c.toNat with
  | some row => some ((row.images c.toNat).map Char.ofNat)
  | none =>
      if Text.CodeRow.covers ignoredRows c then some []
      else if Text.CodeRow.covers refusedRows c then none
      else some [c]

/-- The characters of a domain in one form. -/
def mapText (s : List Char) : Option (List Char) :=
  (s.mapM mapChar).map fun pieces => Text.compose pieces.flatten

/-- Whether an ASCII character may not stand in a domain. -/
def isUnsafe (c : Char) : Bool :=
  c ≤ ' ' || c == '\x7f' || "#%/:<>?@[\\]^|".toList.contains c

/-- Whether the character before a zero-width mark joins with it, looking
through what joining looks through. -/
def joins (rows : Array Text.CodeRow) (neighbours : List Char) : Bool :=
  (neighbours.find? fun c => !Text.CodeRow.covers transparentRows c).any (Text.CodeRow.covers rows)

/-- Whether zero-width joiners stand only where they make a difference: behind
a mark that kills a vowel, and the one that separates also between letters that
would join.  `before` is listed from its end. -/
def joinersFit (before : List Char) : List Char → Bool
  | [] => true
  | c :: rest =>
      let fits :=
        if c == '\u200c' || c == '\u200d' then
          before.head?.any fun previous =>
            Text.markClass previous.toNat == 9 ||
              (c == '\u200c' && joins joinsNextRows before && joins joinsPreviousRows rest)
        else true
      fits && joinersFit (c :: before) rest

/-- Whether the characters of a label may stand in this order. -/
def isWellFormed (label : List Char) : Bool :=
  !label.any isUnsafe && !label.head?.any (Text.CodeRow.covers combiningRows) &&
    joinersFit [] label

/-- How long a label may be, in characters, and how long in ASCII. -/
def maxLength : Nat := 1000

/-- The label that a writing in ASCII stands for; it has to be one that needs the
writing, in its one form. -/
def readAscii? (writing : List Char) : Option (List Char) :=
  if 2 * maxLength < writing.length || writing.any (fun c => 128 ≤ c.toNat) then none
  else
    (Punycode.decode? writing).bind fun label =>
      if label.any (fun c => 128 ≤ c.toNat) && !label.contains '.' &&
          label.all (fun c => mapChar c == some [c]) && Text.compose label == label then some label
      else none

/-- The characters of a label. -/
def readLabel? (label : List Char) : Option (List Char) :=
  let read := match Text.stripStart "xn--".toList label with
    | some writing => readAscii? writing
    | none => some label
  read.bind fun label =>
    if isWellFormed label && (label.length ≤ maxLength || label.all fun c => c.toNat < 128) then
      some label
    else none

/-- A domain in ASCII. -/
def toAscii? (s : List Char) : Option (List Char) := do
  let labels ← (Text.segments '.' (← mapText s)).mapM readLabel?
  if keepDirections labels then some (Text.join ['.'] (labels.map Punycode.encode)) else none

end CallTree.Address.Domain
