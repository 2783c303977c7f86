import CallTree.Address.Domain
import CallTree.Address.Percent

/-!
# The host of an address

A host is a domain, an IPv4 address, or an IPv6 address in brackets.  A domain
whose last label is a number has to be an IPv4 address, and every form of one
is written in the same way.
-/

namespace CallTree

/-- A text that is no address. -/
inductive AddressError where
  | noScheme
  | emptyHost
  | badService
  | badIpv4
  | badIpv6
  | badDomain
  | badHostCharacter
  /-- An address that others cannot be relative to. -/
  | noBase
deriving DecidableEq, Inhabited

/-- The message of a text that is no address. -/
def AddressError.message : AddressError → String
  | .noScheme => "relative URL without a base"
  | .emptyHost => "empty host"
  | .badService => "invalid port number"
  | .badIpv4 => "invalid IPv4 address"
  | .badIpv6 => "invalid IPv6 address"
  | .badDomain => "invalid international domain name"
  | .badHostCharacter => "invalid domain character"
  | .noBase => "relative URL with a cannot-be-a-base base"

namespace Address

/-- A part of an IPv4 address: decimal, octal after `0`, hexadecimal after
`0x`. -/
def ipv4Part : List Char → Option Nat
  | [] => none
  | '0' :: 'x' :: digits => Text.numberIn 16 digits
  | '0' :: 'X' :: digits => Text.numberIn 16 digits
  | '0' :: digit :: digits => Text.numberIn 8 (digit :: digits)
  | digits => Text.numberIn 10 digits

/-- The labels of a domain, without an empty one at its end. -/
def labels (domain : List Char) : List (List Char) :=
  let all := Text.segments '.' domain
  if all.length > 1 && all.getLast? == some [] then all.dropLast else all

/-- Whether the last label of a domain is a number. -/
def endsInNumber (domain : List Char) : Bool :=
  match (labels domain).getLast? with
  | some label => (!label.isEmpty && label.all Char.isDigit) || (ipv4Part label).isSome
  | none => false

/-- The number of an IPv4 address; the last part stands for all bytes that are
left. -/
def ipv4Number (parts : List Nat) : Option Nat :=
  match parts.reverse with
  | [] => none
  | last :: rest =>
      let front := rest.reverse
      if front.length > 3 || front.any (255 < ·) || last ≥ Nat.pow 256 (4 - front.length) then none
      else some (front.zipIdx.foldl (fun n part => n + part.1 * Nat.pow 256 (3 - part.2)) last)

/-- An IPv4 address as four bytes. -/
def ipv4Text (n : Nat) : List Char :=
  Text.join ['.'] ([16777216, 65536, 256, 1].map fun unit => (n / unit % 256).repr.toList)

/-- The IPv4 address that a domain writes. -/
def ipv4 (domain : List Char) : Except AddressError (List Char) :=
  match ((labels domain).mapM ipv4Part).bind ipv4Number with
  | some n => .ok (ipv4Text n)
  | none => .error .badIpv4

/-- A piece of an IPv6 address, up to four digits. -/
def ipv6Piece (digits : List Char) : Option Nat :=
  if digits.isEmpty || digits.length > 4 then none else Text.numberIn 16 digits

/-- A byte of an IPv4 address at the end of an IPv6 address. -/
def plainByte (digits : List Char) : Option Nat :=
  if digits.isEmpty || digits.length > 3 || (digits.length > 1 && digits.head? == some '0') ||
      !digits.all Char.isDigit then none
  else (Text.numberIn 10 digits).bind fun n => if n < 256 then some n else none

/-- The two pieces that an IPv4 address at the end stands for. -/
def ipv4Pieces (text : List Char) : Option (List Nat) :=
  match (Text.segments '.' text).mapM plainByte with
  | some [a, b, c, d] => some [256 * a + b, 256 * c + d]
  | _ => none

/-- The pieces of one side of an IPv6 address; only the last one may be an IPv4
address. -/
def ipv6Side : List (List Char) → Option (List Nat)
  | [] => some []
  | [piece] => if piece.contains '.' then ipv4Pieces piece else (ipv6Piece piece).map ([·])
  | piece :: rest => do
      let n ← ipv6Piece piece
      let pieces ← ipv6Side rest
      pure (n :: pieces)

/-- The text before and after the first double colon. -/
def splitDouble : List Char → Option (List Char × List Char)
  | ':' :: ':' :: rest => some ([], rest)
  | c :: rest => (splitDouble rest).map fun parts => (c :: parts.1, parts.2)
  | [] => none

/-- The pieces of one side of an IPv6 address, which may be empty. -/
def ipv6SideText (s : List Char) : Option (List Nat) :=
  if s.isEmpty then some [] else ipv6Side (Text.segments ':' s)

/-- The eight pieces of an IPv6 address; a double colon stands for one or more
zero pieces. -/
def ipv6Pieces (s : List Char) : Option (List Nat) :=
  match splitDouble s with
  | none =>
      (ipv6SideText s).bind fun pieces => if pieces.length = 8 then some pieces else none
  | some (left, right) => do
      let before ← ipv6SideText left
      let after ← ipv6SideText right
      if left.contains '.' || before.length + after.length > 7 then none
      else
        pure (before ++ List.replicate (8 - before.length - after.length) 0 ++ after)

/-- How many zeros a list begins with. -/
def zeroRun (pieces : List Nat) : Nat := (pieces.takeWhile (· == 0)).length

/-- Where the first of the longest runs of zeros begins, and its length. -/
def longestRun (pieces : List Nat) : Nat × Nat :=
  (List.range pieces.length).foldl
    (fun best start =>
      let length := zeroRun (pieces.drop start)
      if best.2 < length then (start, length) else best)
    (0, 0)

/-- Pieces with colons between them. -/
def piecesText (pieces : List Nat) : List Char :=
  Text.join [':'] (pieces.map (Nat.toDigits 16))

/-- An IPv6 address, with its longest run of zeros left out. -/
def ipv6Text (pieces : List Nat) : List Char :=
  let (start, length) := longestRun pieces
  if length > 1 then
    piecesText (pieces.take start) ++ "::".toList ++ piecesText (pieces.drop (start + length))
  else piecesText pieces

/-- Whether a character may not stand in the host of an address whose scheme
says nothing about hosts. -/
def isHostUnsafe (c : Char) : Bool :=
  c == '\x00' || c == '\t' || c == '\n' || c == '\r' || c == ' ' ||
    "#/:<>?@[\\]^|".toList.contains c

/-- The domain that a text writes, in ASCII. -/
def domain (text : List Char) : Except AddressError (List Char) :=
  match (Text.ofUtf8? (percentDecode text)).bind fun name => Domain.toAscii? name.toList with
  | none => .error .badDomain
  | some [] => .error .emptyHost
  | some name => .ok name

/-- The host in brackets. -/
def bracketed (text : List Char) : Except AddressError (List Char) :=
  match text.getLast?, ipv6Pieces text.dropLast with
  | some ']', some pieces => .ok (['['] ++ ipv6Text pieces ++ [']'])
  | _, _ => .error .badIpv6

/-- The host that a text writes. -/
def host (text : List Char) : Except AddressError (List Char) :=
  match text with
  | '[' :: rest => bracketed rest
  | _ => do
      let name ← domain text
      if endsInNumber name then ipv4 name else pure name

/-- The host of an address whose scheme says nothing about hosts. -/
def opaqueHost (text : List Char) : Except AddressError (List Char) :=
  match text with
  | '[' :: rest => bracketed rest
  | _ =>
      if text.any isHostUnsafe then .error .badHostCharacter
      else .ok (percentEncode isControl text)

end Address

end CallTree
