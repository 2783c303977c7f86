import CallTree.Address.Percent
import CallTree.Text.Segments

/-!
# The path of an address

A path is cut at slashes.  `.` and `..` are taken out of it, and what may not
stand in a path is percent-encoded.  Two things are special about drives:

* a part that begins with a letter and a colon or a bar names a drive, and `..`
  does not lead out of it;
* at the beginning of the path of a file a drive is written with a colon, and
  it takes the place of the host.  A tab or a line break behind such a drive
  closes it, although breaks do not count anywhere else.

Main definitions:

* `Reading.add` — one piece of a path after those before it;
* `readPath` — the parts of a path, and whether a drive takes the place of the
  host.
-/

namespace CallTree.Address

/-- Whether a character is a tab or breaks a line. -/
def isBreak (c : Char) : Bool :=
  c == '\t' || c == '\n' || c == '\r'

/-- A text without tabs and line breaks. -/
def unbroken (s : List Char) : List Char :=
  s.filter fun c => !isBreak c

/-- Whether a character is a slash; for some schemes a backslash counts as
one. -/
def isSlash (backslash : Bool) (c : Char) : Bool :=
  c == '/' || (backslash && c == '\\')

/-- What follows the slash that a text begins with. -/
def afterSlash? (backslash : Bool) (s : List Char) : Option (List Char) :=
  match s.dropWhile isBreak with
  | c :: rest => if isSlash backslash c then some rest else none
  | [] => none

/-- A text without a slash at its beginning. -/
def dropSlash (backslash : Bool) (s : List Char) : List Char :=
  (afterSlash? backslash s).getD s

/-- Whether a part of a path stands for the directory itself. -/
def isSame (part : List Char) : Bool :=
  [".", "%2e"].contains (String.ofList (part.map Char.toLower))

/-- Whether a part of a path stands for the directory above. -/
def isAbove (part : List Char) : Bool :=
  ["..", ".%2e", "%2e.", "%2e%2e"].contains (String.ofList (part.map Char.toLower))

/-- The letter of a part that is the name of a drive. -/
def driveOf? (part : List Char) : Option Char :=
  match part with
  | [letter, mark] => if letter.isAlpha && (mark == ':' || mark == '|') then some letter else none
  | _ => none

/-- Whether a part names a drive, alone or before a backslash. -/
def beginsWithDrive (part : List Char) : Bool :=
  (driveOf? (part.take 2)).isSome && (part.drop 2).head?.all (· == '\\')

/-- The letter of a drive that a piece begins with and that a break closes, and
what the piece has behind it. -/
def closedDrive? (piece : List Char) : Option (Char × List Char) :=
  match piece.dropWhile isBreak with
  | [] => none
  | letter :: rest =>
      match rest.dropWhile isBreak with
      | ':' :: between :: rest =>
          if letter.isAlpha && isBreak between && !(unbroken rest).isEmpty then
            some (letter, unbroken rest)
          else none
      | _ => none

/-- The parts above those in `done`, which is listed from its end. -/
def shorten (done : List (List Char)) : List (List Char) :=
  match done with
  | [] => []
  | part :: rest => if beginsWithDrive part then part :: rest else rest

/-- How far the reading of a path has come. -/
structure Reading where
  /-- The parts so far, listed from their end. -/
  done : List (List Char)
  /-- Whether a drive has taken the place of the host. -/
  drive : Bool
deriving DecidableEq, Inhabited

namespace Reading

/-- Nothing is read yet. -/
def start : Reading := ⟨[], false⟩

/-- Reads a piece that stands for itself. -/
def addPart (isFile : Bool) (r : Reading) (piece : List Char) : Reading :=
  let part := percentEncode isPathUnsafe (unbroken piece)
  if isFile && r.done.isEmpty then
    match closedDrive? piece, driveOf? part with
    | some (letter, rest), _ => { r with done := [percentEncode isPathUnsafe rest, [letter, ':']] }
    | none, some letter => ⟨[[letter, ':']], true⟩
    | none, none => { r with done := [part] }
  else { r with done := part :: r.done }

/-- Reads a piece of a path.  The last one leaves an empty part where it stands
for a directory. -/
def add (isFile isLast : Bool) (r : Reading) (piece : List Char) : Reading :=
  let ended := fun done : List (List Char) => if isLast then [] :: done else done
  if isAbove (unbroken piece) then { r with done := ended (shorten r.done) }
  else if isSame (unbroken piece) then { r with done := ended r.done }
  else r.addPart isFile piece

/-- Reads the pieces of a path. -/
def addAll (isFile : Bool) (r : Reading) : List (List Char) → Reading
  | [] => r
  | piece :: rest => addAll isFile (r.add isFile rest.isEmpty piece) rest

/-- The parts that were read; of a file's none at the beginning is empty. -/
def parts (isFile : Bool) (r : Reading) : List (List Char) :=
  if isFile then
    match r.done.reverse.dropWhile List.isEmpty with
    | [] => [[]]
    | rest => rest
  else r.done.reverse

end Reading

/-- The parts of a path from given pieces on, and whether a drive takes the
place of the host. -/
def readPieces (isFile : Bool) (pieces : List (List Char)) : List (List Char) × Bool :=
  let r := Reading.start.addAll isFile pieces
  (r.parts isFile, r.drive)

/-- The parts of the path that a text begins with, and whether a drive takes the
place of the host. -/
def readPath (isFile backslash : Bool) (s : List Char) : List (List Char) × Bool :=
  let text := (s.takeWhile fun c => !(c == '?' || c == '#')).map fun c =>
    if isSlash backslash c then '/' else c
  readPieces isFile (Text.segments '/' text)

end CallTree.Address
