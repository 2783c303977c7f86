import CallTree.Address.Authority
import CallTree.Text.Blank

/-!
# Addresses

The address of a runner is a scheme, a host and a path.  Reading an address
brings it into one form: letters of the scheme and the host are in lower case,
a service number that the scheme implies is left out, `.` and `..` are taken out
of the path, and what may not stand there is percent-encoded.  Queries and
fragments do not matter, because requests go to endpoints below the path.

* `Address.parse` — the address that a text writes;
* `Address.endpoint` — the address of an endpoint below it.
-/

namespace CallTree

/-- The path of an address. -/
inductive AddressPath where
  /-- The parts between slashes; the last one is empty after a slash at the
  end. -/
  | parts (parts : List (List Char))
  /-- A path without parts, which nothing can be relative to. -/
  | whole (text : List Char)
deriving DecidableEq, Inhabited

/-- The address of a runner. -/
structure Address where
  scheme : List Char
  /-- User, host and service number, for addresses that have a host. -/
  authority : Option (List Char)
  path : AddressPath
deriving DecidableEq, Inhabited

namespace Address

/-- The text without the blanks around it. -/
def withoutEdges (s : List Char) : List Char :=
  let isEdge := fun (c : Char) => c ≤ ' '
  ((s.dropWhile isEdge).reverse.dropWhile isEdge).reverse

/-- Whether a character may stand in a scheme after its first letter. -/
def isSchemeChar (c : Char) : Bool :=
  c.isAlphanum || c == '+' || c == '-' || c == '.'

/-- The scheme of an address and what follows its colon. -/
def splitScheme (s : List Char) : Option (List Char × List Char) :=
  match s.dropWhile isSchemeChar with
  | ':' :: rest =>
      match s.takeWhile isSchemeChar with
      | first :: more =>
          if first.isAlpha then some ((first :: more).map Char.toLower, rest) else none
      | [] => none
  | _ => none

/-- The address with the given scheme whose authority begins a text. -/
def withHost (scheme s : List Char) : Except AddressError Address := do
  let (authority, rest) ← readAuthority scheme s
  let backslash := hasHost scheme
  pure ⟨scheme, some authority, .parts (readPath false backslash (dropSlash backslash rest)).1⟩

/-- The address of a file on a host. -/
def ofFileOn (name path : List Char) : Address :=
  let (parts, drive) := readPath true true path
  ⟨"file".toList, some (if drive then [] else name), .parts parts⟩

/-- The address of a file; a drive may stand where a host does.  The path behind
a host that is left out begins with an empty part, so that no drive begins it. -/
def ofFile (s : List Char) : Except AddressError Address :=
  match (afterSlash? true s).bind (afterSlash? true) with
  | none => pure (ofFileOn [] (dropSlash true s))
  | some rest =>
      let name := unbroken (rest.takeWhile fun c => !endsAuthority true c)
      if (driveOf? name).isSome then pure (ofFileOn [] rest)
      else do
        let path := rest.dropWhile fun c => !endsAuthority true c
        let name ← if name.isEmpty then pure [] else host name
        if name.isEmpty || name = "localhost".toList then pure (ofFileOn [] path)
        else pure (ofFileOn name (dropSlash true path))

/-- The address that a text writes.  Breaks count for files only. -/
def parse (text : String) : Except AddressError Address :=
  let s := withoutEdges text.toList
  match splitScheme (unbroken s) with
  | none => .error .noScheme
  | some (scheme, rest) =>
      if hasHost scheme then withHost scheme (rest.dropWhile (isSlash true))
      else if scheme = "file".toList then ofFile ((s.dropWhile (· != ':')).drop 1)
      else
        match rest with
        | '/' :: '/' :: rest => withHost scheme rest
        | '/' :: rest => .ok ⟨scheme, none, .parts (readPath false false rest).1⟩
        | _ => .ok ⟨scheme, none, .whole rest⟩

/-- The parts of the path that endpoints stand below: the last one is empty. -/
def baseParts (address : Address) (parts : List (List Char)) : List (List Char) :=
  if parts.getLast? = some [] then parts
  else (readPieces (address.scheme = "file".toList) (parts ++ [[]])).1

/-- The address of an endpoint: its name takes the place of an empty last part
of the path, or follows the path. -/
def endpoint (address : Address) (name : String) : Except AddressError Address :=
  match address.path with
  | .whole _ => .error .noBase
  | .parts parts =>
      .ok { address with path := .parts ((address.baseParts parts).dropLast ++ [name.toList]) }

/-- The path of an address as a text. -/
def pathText (address : Address) : String :=
  match address.path with
  | .whole text => String.ofList text
  | .parts parts => String.ofList (parts.flatMap fun part => '/' :: part)

/-- An address as a text.  Where there is no authority, an empty part at the
beginning of the path must not look like one. -/
def text (address : Address) : String :=
  let path := address.pathText
  String.ofList address.scheme ++ ":" ++
    (match address.authority with
      | some authority => "//" ++ String.ofList authority
      | none => if path.startsWith "//" then "/." else "") ++
    path

/-- Whether requests can be made to an address. -/
def isWeb (address : Address) : Bool :=
  address.scheme = "http".toList || address.scheme = "https".toList

end Address

end CallTree
