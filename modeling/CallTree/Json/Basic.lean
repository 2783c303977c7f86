import CallTree.KeyMap
import CallTree.Double.Basic

/-!
# JSON values

Integers from -2⁶³ to 2⁶⁴ - 1 are kept as integers, every other number as a
double, so `1` and `1.0` are different values.  The fields of an object are a
list; a reader lists them in increasing key order, and a written object shows
them in the order of its list.
-/

namespace CallTree

/-- A JSON number. -/
inductive Number where
  | int (value : Int)
  | float (value : Double)
deriving DecidableEq, Inhabited

/-- A JSON value. -/
inductive Json where
  | null
  | bool (value : Bool)
  | num (value : Number)
  | str (value : String)
  | arr (items : List Json)
  | obj (fields : List (String × Json))
deriving Inhabited

namespace Json

/-- The integers that a JSON number keeps as such. -/
def keepsInt (i : Int) : Bool :=
  -(Nat.pow 2 63 : Int) ≤ i && i < (Nat.pow 2 64 : Int)

/-- The object of a list of fields; of two fields with one key the later one
counts. -/
def ofFields (fields : List (String × Json)) : Json :=
  .obj (fields.foldl (fun kept field => KeyMap.insertEntry field.1 field.2 kept) [])

/-- The value of an integer. -/
def ofInt (i : Int) : Json := .num (.int i)

/-- The value under a key, for objects that have the key. -/
def get? (key : String) : Json → Option Json
  | .obj fields => fields.lookup key
  | _ => none

/-- The items of an array. -/
def items? : Json → Option (List Json)
  | .arr items => some items
  | _ => none

/-- The text of a string value. -/
def text? : Json → Option String
  | .str s => some s
  | _ => none

/-- The value of a truth value. -/
def bool? : Json → Option Bool
  | .bool b => some b
  | _ => none

/-- The number of a value that is a natural number below 2⁶⁴. -/
def nat? : Json → Option Nat
  | .num (.int (.ofNat n)) => if n < Nat.pow 2 64 then some n else none
  | _ => none

end Json

end CallTree
