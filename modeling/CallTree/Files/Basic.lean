import CallTree.Files.Path
import CallTree.KeyMap
import CallTree.Text.Utf8

/-!
# Files and directories

The files below the working directory are a finite map from places to what is
there.  A place is the list of the names that lead to it, innermost first; the
working directory is the empty list.

* `Files.read`, `Files.write`, `Files.makeDirs` — the operations, with the
  reasons why they may fail; of directories that cannot all be made, the outer
  ones may stay;
* `Files.look` — what stands at a path, if anything.
-/

namespace CallTree

/-- What stands at a place. -/
inductive File where
  | text (content : String)
  /-- Bytes that are no UTF-8 text. -/
  | binary (bytes : List UInt8)
  | directory
deriving DecidableEq, Inhabited

/-- The file that holds the given bytes. -/
def File.ofBytes (bytes : List UInt8) : File :=
  match Text.ofUtf8? bytes with
  | some content => .text content
  | none => .binary bytes

/-- The content of a file as a text, with marks in place of what is no text. -/
def File.lossyText? : File → Option String
  | .text content => some content
  | .binary bytes => some (Text.ofUtf8Lossy bytes)
  | .directory => none

/-- Why a file cannot be read or written. -/
inductive FileError where
  | notFound
  | alreadyExists
  | notDirectory
  | isDirectory
  | nameTooLong
  | zeroInName
  | notText
deriving DecidableEq, Inhabited

/-- The message of a file that cannot be read or written. -/
def FileError.message : FileError → String
  | .notFound => "No such file or directory (os error 2)"
  | .alreadyExists => "File exists (os error 17)"
  | .notDirectory => "Not a directory (os error 20)"
  | .isDirectory => "Is a directory (os error 21)"
  | .nameTooLong => "File name too long (os error 36)"
  | .zeroInName => "file name contained an unexpected NUL byte"
  | .notText => "stream did not contain valid UTF-8"

/-- The names that lead to a place, innermost first; `/` stands at the end of a
place outside the working directory. -/
abbrev Place := List String

/-- The files below the working directory. -/
structure Files where
  entries : KeyMap File
deriving Inhabited

namespace Files

/-- No files at all. -/
def empty : Files := ⟨KeyMap.empty⟩

/-- The text that stands for a place. -/
def key (place : Place) : String :=
  "/".intercalate place.reverse

/-- Whether a place is the working directory, the root, or above them. -/
def isAbove (place : Place) : Bool :=
  place.all (· == "..") || place == ["/"]

/-- What stands at a place. -/
def at? (files : Files) (place : Place) : Option File :=
  if isAbove place then some .directory else files.entries.get? (key place)

/-- Puts a file at a place. -/
def put (files : Files) (place : Place) (file : File) : Files :=
  ⟨files.entries.insert (key place) file⟩

/-- How many bytes a name may have. -/
def maxNameLength : Nat := 255

/-- How many bytes a path may have. -/
def maxPathLength : Nat := 4095

/-- The place one name further. -/
def enter (place : Place) (name : String) : Place :=
  if name = "." || name = "" then place
  else if name = ".." then
    match place with
    | ["/"] => place
    | above :: rest => if above = ".." then name :: place else rest
    | [] => [name]
  else name :: place

/-- Follows names from a place on; every place that is left has to be a
directory. -/
def follow (files : Files) (place : Place) : List String → Except FileError Place
  | [] => .ok place
  | name :: rest =>
      match files.at? place with
      | some .directory =>
          if name.utf8ByteSize > maxNameLength then .error .nameTooLong
          else follow files (enter place name) rest
      | some _ => .error .notDirectory
      | none => .error .notFound

/-- The place that the names of a path lead to. -/
def locateBy (files : Files) (path : String) (names : List String) : Except FileError Place :=
  if path.toList.contains '\x00' then .error .zeroInName
  else if path = "" then .error .notFound
  else if path.utf8ByteSize > maxPathLength then .error .nameTooLong
  else files.follow (if Path.isAbsolute path then ["/"] else []) names

/-- The place that a path leads to. -/
def locate (files : Files) (path : String) : Except FileError Place :=
  files.locateBy path (Path.pieces path)

/-- What stands at a path. -/
def look (files : Files) (path : String) : Option File :=
  match files.locate path with
  | .ok place => files.at? place
  | .error _ => none

/-- Whether anything stands at a path. -/
def has (files : Files) (path : String) : Bool :=
  (files.look path).isSome

/-- Whether a file stands at a path, and no directory. -/
def hasFile (files : Files) (path : String) : Bool :=
  match files.look path with
  | some .directory => false
  | some _ => true
  | none => false

/-- The text of the file at a path. -/
def read (files : Files) (path : String) : Except FileError String := do
  match files.at? (← files.locate path) with
  | some (.text content) => .ok content
  | some (.binary _) => .error .notText
  | some .directory => .error .isDirectory
  | none => .error .notFound

/-- The names that lead to the directory of a path that ends in a slash. -/
def namesAbove (path : String) : List String :=
  ((Path.pieces path).reverse.dropWhile (· == "")).tail.reverse ++ ["."]

/-- Writes a text to the file at a path, in place of what it held.  With a
slash at its end a path means a directory, whatever its last name is. -/
def write (files : Files) (path content : String) : Except FileError Files := do
  if path.toList.getLast? = some '/' then
    let _ ← files.locateBy path (namesAbove path)
    .error .isDirectory
  else
    let place ← files.locate path
    match files.at? place with
    | some .directory => .error .isDirectory
    | _ => .ok (files.put place (.text content))

/-- Makes one directory inside of one that is there. -/
def makeDir (files : Files) (path : String) : Except FileError Files := do
  match (Path.pieces path).reverse with
  | [] => .error .notFound
  | name :: rest =>
      let above ← files.locateBy path rest.reverse
      match files.at? above with
      | none => .error .notFound
      | some .directory =>
          if name.utf8ByteSize > maxNameLength then .error .nameTooLong
          else if (files.at? (enter above name)).isSome then .error .alreadyExists
          else .ok (files.put (enter above name) .directory)
      | some _ => .error .notDirectory

/-- Makes a directory that may be there already. -/
def ensureDir (files : Files) (path : String) : Except FileError Unit × Files :=
  match files.makeDir path with
  | .ok files => (.ok (), files)
  | .error e => (if files.look path = some .directory then .ok () else .error e, files)

/-- Makes the first of some directories, each of which is inside of the next
one.  Those around it are made only where it cannot be made without them; they
stay even if it cannot be made after all. -/
def makeNested (files : Files) : List String → Except FileError Unit × Files
  | [] => (.ok (), files)
  | path :: above =>
      match files.makeDir path with
      | .error .notFound =>
          match makeNested files above with
          | (.ok (), files) => files.ensureDir path
          | failed => failed
      | _ => files.ensureDir path

/-- Makes a directory with all that lead to it. -/
def makeDirs (files : Files) (path : String) : Except FileError Unit × Files :=
  files.makeNested (Path.nest path)

/-- Puts a file at a path and makes the directories that lead to it. -/
def add (files : Files) (path : String) (file : File) : Files :=
  match files.makeDirs ((Path.parent? path).getD "") with
  | (.ok (), files) =>
      match files.locate path with
      | .ok place => files.put place file
      | .error _ => files
  | (.error _, files) => files

end Files

end CallTree
