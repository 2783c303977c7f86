import CallTree.Double.Layout
import CallTree.Json.Printer
import CallTree.KeyMap
import CallTree.Settings.Number
import CallTree.Text.Case
import CallTree.Text.Quoted
import CallTree.Text.Segments

/-!
# The tree of settings

Settings from all sources are put into one tree of tables, lists and scalars.
Scalars and lists remember where they come from, so that a message about a
value of the wrong type can say so.  Scalars are converted freely: a text that
writes a number will do for the number, and the other way round.

* `Setting.put` — a value at the end of a path;
* `Setting.toText`, `toBool`, `toNatural` — the conversions.
-/

namespace CallTree

/-- A setting without parts. -/
inductive Scalar where
  | nil
  | bool (value : Bool)
  | int (value : Int)
  | float (value : Double)
  | text (value : String)
deriving DecidableEq, Inhabited

/-- A setting, with its source where it has one. -/
inductive Setting where
  | scalar (value : Scalar) (origin : Option String)
  | list (items : List Setting) (origin : Option String)
  | table (fields : List (String × Setting)) (origin : Option String)
deriving Inhabited

/-- One step of a path to a setting: into a table by key, or into a list by
place, counted from its end below zero. -/
inductive SettingStep where
  | key (name : String)
  | place (index : Int)
deriving DecidableEq

/-- Settings of the wrong type, or settings that cannot be read at all. -/
inductive SettingsError where
  | unreadable
  | wrongType (found expected key : String) (origin : Option String)
deriving DecidableEq, Inhabited

/-- What is wrong with a value, its key and its source. -/
def SettingsError.detail (found expected key : String) (origin : Option String) : String :=
  "invalid type: " ++ found ++ ", expected " ++ expected ++ " for key \x60" ++ key ++ "\x60" ++
    (match origin with
      | some origin => " in " ++ origin
      | none => "")

namespace Setting

/-- The fields of a table; anything else has none. -/
def fields : Setting → List (String × Setting)
  | .table fields _ => fields
  | _ => []

mutual

/-- A value after another one was written over it; tables are merged. -/
def merge (old : Setting) : Setting → Setting
  | .table fields _ => .table (mergeFields old.fields fields) none
  | .scalar value origin => .scalar value origin
  | .list items origin => .list items origin

/-- Fields after others were written over them. -/
def mergeFields (old : List (String × Setting)) : List (String × Setting) →
    List (String × Setting)
  | [] => old
  | (key, value) :: rest =>
      let before := (old.lookup key).getD (.table [] none)
      mergeFields (KeyMap.insertEntry key (merge before value) old) rest

end

/-- A setting without value or source. -/
def missing : Setting := .scalar .nil none

/-- The items of a list; anything else has none. -/
def items : Setting → List Setting
  | .list items _ => items
  | _ => []

/-- The list with something at the place that an index means, and that place.
Below the beginning the list grows at its front, beyond its end at its end. -/
def reach (index : Int) (items : List Setting) : List Setting × Nat :=
  let place := if index < 0 then index + items.length else index
  let items := List.replicate (-place).toNat missing ++ items
  (items ++ List.replicate (place.toNat + 1 - items.length) missing, place.toNat)

/-- Puts a value at the end of a path; what is no table, or no list, on the way
is replaced by one. -/
def put (value : Setting) : List SettingStep → Setting → Setting
  | [], old => merge old value
  | .key name :: steps, old =>
      let before := (old.fields.lookup name).getD missing
      .table (KeyMap.insertEntry name (put value steps before) old.fields) none
  | .place index :: steps, old =>
      let (items, place) := reach index old.items
      let before := (items[place]?).getD missing
      .list (items.set place (put value steps before)) none

/-- Whether a character may stand in a key that is part of a path. -/
def isKeyChar (c : Char) : Bool :=
  c.isAlphanum || c == '_' || c == '-'

/-- The index that a text writes, with blanks around it. -/
def indexOf? (s : List Char) : Option Int :=
  let isGap := fun (c : Char) => c == ' ' || c == '\t'
  match ((s.dropWhile isGap).reverse.dropWhile isGap).reverse with
  | '-' :: digits => Settings.readSigned 10 ('-' :: digits)
  | '+' :: _ => none
  | digits => Settings.readSigned 10 digits

/-- The steps that a part of a path writes: a key, and indices in brackets. -/
def stepsOf (part : List Char) : Option (List SettingStep) :=
  let name := part.takeWhile isKeyChar
  let indices := match part.dropWhile isKeyChar with
    | [] => some []
    | '[' :: rest =>
        if rest.getLast? = some ']' then
          (Text.segments '[' rest).mapM fun (index : List Char) =>
            match index.reverse with
            | ']' :: digits => (indexOf? digits.reverse).map SettingStep.place
            | _ => none
        else none
    | _ => none
  if name.isEmpty then none else indices.map (SettingStep.key (String.ofList name) :: ·)

/-- The path that a key writes with dots and brackets; any other key is its own
path. -/
def pathOf (key : String) : List SettingStep :=
  match (Text.segments '.' key.toList).mapM stepsOf with
  | some steps => steps.flatten
  | none => [.key key]

/-- Where a value comes from. -/
def origin? : Setting → Option String
  | .scalar _ origin => origin
  | .list _ origin => origin
  | .table _ origin => origin

/-- How messages name a truth value. -/
def boolName (b : Bool) : String :=
  if b then "boolean \x60true\x60" else "boolean \x60false\x60"

/-- How messages name the type of a value. -/
def describe : Setting → String
  | .scalar .nil _ => "unit value"
  | .scalar (.bool b) _ => boolName b
  | .scalar (.int i) _ => "integer \x60" ++ String.ofList (Json.intText i) ++ "\x60"
  | .scalar (.float d) _ =>
      "floating point \x60" ++ String.ofList (d.text Double.Layout.pointed) ++ "\x60"
  | .scalar (.text s) _ => "string " ++ Text.quoted s
  | .list _ _ => "sequence"
  | .table _ _ => "map"

/-- A value that is not of the type asked for. -/
def mismatch {α : Type} (value : Setting) (expected key : String) : Except SettingsError α :=
  .error (.wrongType value.describe expected key value.origin?)

/-- The text of a setting. -/
def toText (key : String) : Setting → Except SettingsError String
  | .scalar (.text s) _ => .ok s
  | .scalar (.bool b) _ => .ok (if b then "true" else "false")
  | .scalar (.int i) _ => .ok (String.ofList (Json.intText i))
  | .scalar (.float d) _ => .ok (String.ofList (d.text Double.Layout.display))
  | value => value.mismatch "a string" key

/-- The text of a setting that may be left out. -/
def toOptionalText (key : String) : Setting → Except SettingsError (Option String)
  | .scalar .nil _ => .ok none
  | value => (value.toText key).map some

/-- The truth value of a setting. -/
def toBool (key : String) : Setting → Except SettingsError Bool
  | .scalar (.bool b) _ => .ok b
  | .scalar (.int i) _ => .ok (i != 0)
  | .scalar (.float d) _ => .ok (!d.isZero)
  | .scalar (.text s) origin =>
      let word := Text.lower s
      if ["1", "true", "on", "yes"].contains word then .ok true
      else if ["0", "false", "off", "no"].contains word then .ok false
      else mismatch (.scalar (.text word) origin) "a boolean" key
  | value => value.mismatch "a boolean" key

/-- A floating point number as a natural number of 64 bits, the nearest one in
range. -/
def roundToNatural (d : Double) : Nat :=
  if d.isNaN then 0
  else if d.negative then 0
  else if d.isFinite then min d.roundMagnitude (Nat.pow 2 64 - 1)
  else Nat.pow 2 64 - 1

/-- The natural number of 64 bits that a setting writes. -/
def toNatural (key : String) : Setting → Except SettingsError Nat
  | .scalar (.bool b) _ => .ok (if b then 1 else 0)
  | .scalar (.int i) origin =>
      if 0 ≤ i then .ok i.toNat
      else
        .error (.wrongType ("64-bit integer \x60" ++ String.ofList (Json.intText i) ++ "\x60")
          "an unsigned 64 bit or less integer" key origin)
  | .scalar (.float d) _ => .ok (roundToNatural d)
  | .scalar (.text s) origin =>
      let word := Text.lower s
      if ["true", "on", "yes"].contains word then .ok 1
      else if ["false", "off", "no"].contains word then .ok 0
      else
        match Text.readNatural s.toList with
        | some n => .ok n
        | none => mismatch (.scalar (.text s) origin) "an integer" key
  | value => value.mismatch "an integer" key

/-- The natural number of 32 bits that a setting writes. -/
def toSmallNatural (key : String) (value : Setting) : Except SettingsError Nat := do
  let n ← value.toNatural key
  if n < Nat.pow 2 32 then return n
  else
    throw (.wrongType ("64-bit unsigned integer \x60" ++ n.repr ++ "\x60")
      "an unsigned 32 bit integer" key none)

end Setting

end CallTree
