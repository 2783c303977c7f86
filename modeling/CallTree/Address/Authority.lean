import CallTree.Address.Host
import CallTree.Address.Path

/-!
# The authority of an address

The authority is what stands between the two slashes after the scheme and the
path: a user with a password, a host, and a service number.

* `readAuthority` — the authority that a text begins with, and what follows.
-/

namespace CallTree.Address

/-- The service numbers that schemes imply whose addresses always have a
host. -/
def impliedServices : List (String × Nat) :=
  [("http", 80), ("https", 443), ("ws", 80), ("wss", 443), ("ftp", 21)]

/-- Whether the addresses of a scheme always have a host. -/
def hasHost (scheme : List Char) : Bool :=
  (impliedServices.lookup (String.ofList scheme)).isSome

/-- Whether a character ends the authority of an address. -/
def endsAuthority (backslash : Bool) (c : Char) : Bool :=
  isSlash backslash c || c == '?' || c == '#'

/-- User and password as they are written before the host. -/
def userText (user : List Char) : List Char :=
  let (name, password) := (Text.splitFirst ':' user).getD (user, [])
  let name := percentEncode isUserUnsafe name
  let password := percentEncode isUserUnsafe password
  if password.isEmpty then (if name.isEmpty then [] else name ++ ['@'])
  else name ++ [':'] ++ password ++ ['@']

/-- User and password before the last at sign of an authority, and what
follows.  Where nothing stands before the sign, something has to follow. -/
def readUser (backslash : Bool) (s : List Char) :
    Except AddressError (List Char × List Char) :=
  match Text.splitLast '@' (s.takeWhile fun c => !endsAuthority backslash c) with
  | none => .ok ([], s)
  | some (user, _) =>
      let rest := s.drop (user.length + 1)
      if user.isEmpty && rest.head?.any (endsAuthority backslash) then .error .emptyHost
      else .ok (userText user, rest)

/-- The host that a text begins with, and what follows; a colon inside brackets
belongs to the host. -/
def splitHost (backslash : Bool) : (inside : Bool) → List Char → List Char × List Char
  | _, [] => ([], [])
  | inside, c :: rest =>
      if endsAuthority backslash c || (c == ':' && !inside) then ([], c :: rest)
      else
        let inside := if c == '[' then true else if c == ']' then false else inside
        let (host, after) := splitHost backslash inside rest
        (c :: host, after)

/-- The service number after a host, and what follows. -/
def readService (s : List Char) : Except AddressError (Option Nat × List Char) :=
  match s with
  | ':' :: rest =>
      let digits := rest.takeWhile Char.isDigit
      let after := rest.dropWhile Char.isDigit
      match Text.someNumberIn 10 digits with
      | none =>
          if after.head?.all (endsAuthority true) then .ok (none, after) else .error .badService
      | some n =>
          if n < 65536 && after.head?.all (endsAuthority true) then .ok (some n, after)
          else .error .badService
  | rest => .ok (none, rest)

/-- The authority that a text begins with, and what follows. -/
def readAuthority (scheme s : List Char) : Except AddressError (List Char × List Char) := do
  let isWebLike := hasHost scheme
  let (user, rest) ← readUser isWebLike s
  let (name, rest) := splitHost isWebLike false rest
  if name.isEmpty && (isWebLike || !user.isEmpty || rest.head? = some ':') then throw .emptyHost
  let name ← if isWebLike then host name else opaqueHost name
  let (service, rest) ← readService rest
  match service with
  | none => pure (user ++ name, rest)
  | some service =>
      if impliedServices.lookup (String.ofList scheme) = some service then pure (user ++ name, rest)
      else pure (user ++ name ++ [':'] ++ service.repr.toList, rest)

end CallTree.Address
