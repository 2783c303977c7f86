import CallTree.Text.CaseTable

/-!
# Upper and lower case of texts

Case mapping by character, after the full case mappings of Unicode: one
character may become several (`ß` becomes `SS`).  Only the lower case of sigma
depends on where it stands in a word.  Names are ordered by their upper case.
-/

namespace CallTree.Text

/-- The case mapping of a character beyond ASCII by two tables: first the
longer images, then the rows. -/
def mapCase (texts : List (Nat × List Nat)) (rows : List CaseRow) (c : Char) : List Char :=
  match texts.lookup c.toNat with
  | some image => image.map Char.ofNat
  | none =>
      match rows.findSome? (·.image? c.toNat) with
      | some n => [Char.ofNat n]
      | none => [c]

/-- The upper case of one character. -/
def upperChar (c : Char) : List Char :=
  if c.toNat < 0x80 then [c.toUpper] else mapCase upperTexts upperRows c

/-- The lower case of one character, wherever it stands in a word. -/
def lowerChar (c : Char) : List Char :=
  if c.toNat < 0x80 then [c.toLower] else mapCase lowerTexts lowerRows c

/-- Whether a character lies in one of several ranges. -/
def inRanges (ranges : List (Nat × Nat)) (c : Char) : Bool :=
  ranges.any fun (first, last) => first ≤ c.toNat && c.toNat ≤ last

/-- Whether the first character that counts is a letter with a case. -/
def meetsCased (s : List Char) : Bool :=
  (s.find? fun c => !inRanges ignoredRanges c).any (inRanges casedRanges)

/-- The lower case of a text after `before`, which is listed from its end.  A
sigma at the end of a word has a form of its own. -/
def lowerAfter (before : List Char) : List Char → List Char
  | [] => []
  | c :: rest =>
      (if c == 'Σ' then [if meetsCased before && !meetsCased rest then 'ς' else 'σ']
       else lowerChar c) ++ lowerAfter (c :: before) rest

/-- The text in upper case. -/
def upper (s : String) : String :=
  String.ofList (s.toList.flatMap upperChar)

/-- The text in lower case. -/
def lower (s : String) : String :=
  String.ofList (lowerAfter [] s.toList)

end CallTree.Text
