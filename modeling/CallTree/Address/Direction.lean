import CallTree.Address.DirectionTable

/-!
# Host names in scripts of both directions

Where a host name holds a letter that is written from right to left, each of
its labels has to keep to one direction, so that labels cannot be mistaken for
one another when they are shown.
-/

namespace CallTree.Address

/-- The direction of a character. -/
inductive Direction where
  | left
  | right
  | digit
  | arabicDigit
  | neutral
  | mark
deriving DecidableEq

/-- The direction of a character of a host name. -/
def Direction.of (c : Char) : Direction :=
  if Text.CodeRow.covers rightRows c then .right
  else if Text.CodeRow.covers arabicDigitRows c then .arabicDigit
  else if Text.CodeRow.covers digitRows c then .digit
  else if Text.CodeRow.covers neutralRows c then .neutral
  else if Text.CodeRow.covers markRows c then .mark
  else .left

/-- Whether a label from left to right is well formed: nothing in it runs the
other way, and it ends in a letter or a digit, marks apart. -/
def keepsLeft (directions : List Direction) : Bool :=
  directions.all (fun d => d != .right && d != .arabicDigit) &&
    (directions.reverse.find? (· != .mark)).any fun d => d = .left || d = .digit

/-- Whether a label from right to left is well formed: nothing in it runs the
other way, its digits are of one kind, and it ends in a letter or a digit,
marks apart. -/
def keepsRight (directions : List Direction) : Bool :=
  directions.all (· != .left) &&
    !(directions.contains .digit && directions.contains .arabicDigit) &&
    (directions.reverse.find? (· != .mark)).any fun d => d != .neutral

/-- Whether a label keeps to one direction. -/
def keepsDirection (label : List Char) : Bool :=
  let directions := label.map Direction.of
  match directions with
  | [] => true
  | .left :: _ => keepsLeft directions
  | .right :: _ => keepsRight directions
  | _ => false

/-- Whether the labels of a host name can be told apart in every direction. -/
def keepDirections (labels : List (List Char)) : Bool :=
  let turns := labels.any fun label =>
    label.any fun c => Direction.of c = .right || Direction.of c = .arabicDigit
  !turns || labels.all keepsDirection

end CallTree.Address
