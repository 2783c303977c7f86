/-!
# Debug records

A record is what a program wrote as one debug message: an event, a name and
fields in the order in which they were first written.

* `Record.set` — a new key goes to the end, a key that is there keeps its
  place;
* `Record.describe` — the record as one line.
-/

namespace CallTree.Log

/-- A debug record. -/
structure Record where
  name : Option String
  event : Option String
  /-- Whether the record was put together from several entries. -/
  grouped : Bool
  fields : List (String × String)
deriving DecidableEq

namespace Record

/-- The record that holds nothing. -/
def empty : Record := ⟨none, none, false, []⟩

instance : Inhabited Record := ⟨empty⟩

/-- A record with a name and an event, and no field yet. -/
def opened (name event : String) : Record := ⟨some name, some event, false, []⟩

/-- Fields after writing `value` under `key`. -/
def setIn (key value : String) : List (String × String) → List (String × String)
  | [] => [(key, value)]
  | (k, v) :: rest => if k = key then (k, value) :: rest else (k, v) :: setIn key value rest

/-- Writes `value` under `key`. -/
def set (r : Record) (key value : String) : Record :=
  { r with fields := setIn key value r.fields }

/-- The value under a key. -/
def get? (r : Record) (key : String) : Option String :=
  r.fields.lookup key

/-- Whether the record holds neither a name nor an event nor a field. -/
def isEmpty (r : Record) : Bool :=
  r.name.isNone && r.event.isNone && r.fields.isEmpty

/-- The fields of a record as one text. -/
def fieldsText (r : Record) : String :=
  ", ".intercalate (r.fields.map fun field => field.1 ++ ": " ++ field.2)

/-- The record as one line: its event, and its fields in parentheses. -/
def describe (r : Record) : String :=
  let event := r.event.getD ""
  let fields := r.fieldsText
  if fields = "" then event
  else if event = "" then "( " ++ fields ++ " )"
  else event ++ " ( " ++ fields ++ " )"

/-- The written key holds its new value. -/
theorem lookup_setIn_self (key value : String) (fields : List (String × String)) :
    (setIn key value fields).lookup key = some value := by
  induction fields with
  | nil => simp [setIn]
  | cons field rest ih =>
      obtain ⟨k, v⟩ := field
      by_cases h : k = key
      · simp [setIn, h]
      · have hne : (key == k) = false := beq_eq_false_iff_ne.2 (Ne.symm h)
        simp [setIn, h, List.lookup_cons, hne, ih]

/-- Every other key keeps its value. -/
theorem lookup_setIn_of_ne {key k : String} (hne : k ≠ key) (value : String)
    (fields : List (String × String)) :
    (setIn key value fields).lookup k = fields.lookup k := by
  have hbeq : (k == key) = false := beq_eq_false_iff_ne.2 hne
  induction fields with
  | nil => simp [setIn, List.lookup_cons, hbeq]
  | cons field rest ih =>
      obtain ⟨k', v⟩ := field
      by_cases h : k' = key
      · simp [setIn, h, List.lookup_cons, hbeq]
      · simp [setIn, h, List.lookup_cons, ih]

/-- The keys after writing are the old ones, with a new one at the end. -/
theorem keys_setIn (key value : String) (fields : List (String × String)) :
    (setIn key value fields).map Prod.fst =
      if key ∈ fields.map Prod.fst then fields.map Prod.fst
      else fields.map Prod.fst ++ [key] := by
  induction fields with
  | nil => simp [setIn]
  | cons field rest ih =>
      obtain ⟨k, v⟩ := field
      by_cases h : k = key
      · simp [setIn, h]
      · have h' : ¬ key = k := fun e => h e.symm
        simp only [setIn, h, if_false, List.map_cons, ih, List.mem_cons, h', false_or]
        split <;> simp

end Record

end CallTree.Log
