import CallTree.Json.Basic
import CallTree.Proofs.KeyMap

/-!
# What a JSON value is made of

Containers hold values, so what holds of a container if it holds of all values
inside holds of every value.

A value that was read is nested only so deep, its objects list their keys in
increasing order, and its numbers are of a certain kind.  `Fits` says all three
at once, as the induction over a value needs it.

* `valueInduction` — induction over the values inside of a value;
* `Fits` — a value of a nesting, with sorted objects and certain numbers;
* `fits_iff` — the three parts of it, one by one.
-/

namespace CallTree

namespace Json

/-- **Induction over the values inside of a value.** -/
theorem valueInduction {motive : Json → Prop} (null : motive .null)
    (bool : ∀ b, motive (.bool b)) (num : ∀ n, motive (.num n)) (str : ∀ s, motive (.str s))
    (arr : ∀ items, (∀ item ∈ items, motive item) → motive (.arr items))
    (obj : ∀ fields, (∀ field ∈ fields, motive field.2) → motive (.obj fields))
    (j : Json) : motive j := by
  refine Json.rec (motive_1 := motive) (motive_2 := fun items => ∀ item ∈ items, motive item)
    (motive_3 := fun fields => ∀ field ∈ fields, motive field.2)
    (motive_4 := fun field => motive field.2) null bool num str arr obj ?_ ?_ ?_ ?_ ?_ j
  · exact fun _ hmem => absurd hmem List.not_mem_nil
  · intro item items hitem hitems
    exact List.forall_mem_cons.mpr ⟨hitem, hitems⟩
  · exact fun _ hmem => absurd hmem List.not_mem_nil
  · intro field fields hfield hfields
    exact List.forall_mem_cons.mpr ⟨hfield, hfields⟩
  · exact fun _ _ hvalue => hvalue

mutual

/-- How many containers stand around the innermost value. -/
def nesting : Json → Nat
  | .arr items => nestingOfItems items + 1
  | .obj fields => nestingOfFields fields + 1
  | _ => 0

/-- How many containers stand around the innermost value of several. -/
def nestingOfItems : List Json → Nat
  | [] => 0
  | item :: items => max (nesting item) (nestingOfItems items)

/-- How many containers stand around the innermost value of several fields. -/
def nestingOfFields : List (String × Json) → Nat
  | [] => 0
  | (_, value) :: fields => max (nesting value) (nestingOfFields fields)

end

/-- Every object lists its keys in increasing order, each once. -/
inductive Sorted : Json → Prop
  | null : Sorted .null
  | bool (b : Bool) : Sorted (.bool b)
  | num (n : Number) : Sorted (.num n)
  | str (s : String) : Sorted (.str s)
  | arr {items : List Json} (h : ∀ item ∈ items, Sorted item) : Sorted (.arr items)
  | obj {fields : List (String × Json)} (increasing : (KeyMap.keysOf fields).Pairwise (· < ·))
      (h : ∀ field ∈ fields, Sorted field.2) : Sorted (.obj fields)

/-- Every number is of a certain kind. -/
inductive Numbers (kind : Number → Prop) : Json → Prop
  | null : Numbers kind .null
  | bool (b : Bool) : Numbers kind (.bool b)
  | num {n : Number} (h : kind n) : Numbers kind (.num n)
  | str (s : String) : Numbers kind (.str s)
  | arr {items : List Json} (h : ∀ item ∈ items, Numbers kind item) : Numbers kind (.arr items)
  | obj {fields : List (String × Json)} (h : ∀ field ∈ fields, Numbers kind field.2) :
      Numbers kind (.obj fields)

/-- A value nested at most `levels` deep, whose objects are sorted and whose
numbers are of a certain kind. -/
inductive Fits (kind : Number → Prop) : (levels : Nat) → Json → Prop
  | null {levels : Nat} : Fits kind levels .null
  | bool {levels : Nat} (b : Bool) : Fits kind levels (.bool b)
  | num {levels : Nat} {n : Number} (h : kind n) : Fits kind levels (.num n)
  | str {levels : Nat} (s : String) : Fits kind levels (.str s)
  | arr {levels : Nat} {items : List Json} (h : ∀ item ∈ items, Fits kind levels item) :
      Fits kind (levels + 1) (.arr items)
  | obj {levels : Nat} {fields : List (String × Json)}
      (increasing : (KeyMap.keysOf fields).Pairwise (· < ·))
      (h : ∀ field ∈ fields, Fits kind levels field.2) : Fits kind (levels + 1) (.obj fields)

variable {kind : Number → Prop}

theorem nestingOfItems_le_iff {items : List Json} {levels : Nat} :
    nestingOfItems items ≤ levels ↔ ∀ item ∈ items, item.nesting ≤ levels := by
  induction items with
  | nil => simp [nestingOfItems]
  | cons item items ih => rw [nestingOfItems, Nat.max_le, List.forall_mem_cons, ih]

theorem nestingOfFields_le_iff {fields : List (String × Json)} {levels : Nat} :
    nestingOfFields fields ≤ levels ↔ ∀ field ∈ fields, field.2.nesting ≤ levels := by
  induction fields with
  | nil => simp [nestingOfFields]
  | cons field fields ih => rw [nestingOfFields, Nat.max_le, List.forall_mem_cons, ih]

/-- A value that fits has the three parts of fitting. -/
theorem Fits.parts {levels : Nat} {j : Json} (h : Fits kind levels j) :
    j.nesting ≤ levels ∧ j.Sorted ∧ j.Numbers kind := by
  induction h with
  | null => exact ⟨Nat.zero_le _, .null, .null⟩
  | bool b => exact ⟨Nat.zero_le _, .bool b, .bool b⟩
  | num h => exact ⟨Nat.zero_le _, .num _, .num h⟩
  | str s => exact ⟨Nat.zero_le _, .str s, .str s⟩
  | arr _ ih =>
      refine ⟨?_, .arr fun item hmem => (ih item hmem).2.1,
        .arr fun item hmem => (ih item hmem).2.2⟩
      rw [nesting]
      exact Nat.succ_le_succ (nestingOfItems_le_iff.mpr fun item hmem => (ih item hmem).1)
  | obj increasing _ ih =>
      refine ⟨?_, .obj increasing fun field hmem => (ih field hmem).2.1,
        .obj fun field hmem => (ih field hmem).2.2⟩
      rw [nesting]
      exact Nat.succ_le_succ (nestingOfFields_le_iff.mpr fun field hmem => (ih field hmem).1)

/-- The three parts of fitting are enough. -/
theorem fits_of_parts {levels : Nat} {j : Json} (hnesting : j.nesting ≤ levels)
    (hsorted : j.Sorted) (hnumbers : j.Numbers kind) : Fits kind levels j := by
  induction j using valueInduction generalizing levels with
  | null => exact .null
  | bool b => exact .bool b
  | num n =>
      cases hnumbers with
      | num h => exact .num h
  | str s => exact .str s
  | arr items ih =>
      cases hsorted with
      | arr hsorted =>
          cases hnumbers with
          | arr hnumbers =>
              rw [nesting] at hnesting
              obtain ⟨levels, rfl⟩ : ∃ below, levels = below + 1 := ⟨levels - 1, by omega⟩
              have hitems := nestingOfItems_le_iff.mp (Nat.le_of_succ_le_succ hnesting)
              exact .arr fun item hmem =>
                ih item hmem (hitems item hmem) (hsorted item hmem) (hnumbers item hmem)
  | obj fields ih =>
      cases hsorted with
      | obj increasing hsorted =>
          cases hnumbers with
          | obj hnumbers =>
              rw [nesting] at hnesting
              obtain ⟨levels, rfl⟩ : ∃ below, levels = below + 1 := ⟨levels - 1, by omega⟩
              have hfields := nestingOfFields_le_iff.mp (Nat.le_of_succ_le_succ hnesting)
              exact .obj increasing fun field hmem =>
                ih field hmem (hfields field hmem) (hsorted field hmem) (hnumbers field hmem)

/-- **Fitting is nesting, sorting and the kind of the numbers.** -/
theorem fits_iff {levels : Nat} {j : Json} :
    Fits kind levels j ↔ j.nesting ≤ levels ∧ j.Sorted ∧ j.Numbers kind :=
  ⟨Fits.parts, fun ⟨hnesting, hsorted, hnumbers⟩ => fits_of_parts hnesting hsorted hnumbers⟩

/-- What fits also fits where more is allowed. -/
theorem Fits.mono {kind' : Number → Prop} {levels levels' : Nat} {j : Json}
    (h : Fits kind levels j) (hlevels : levels ≤ levels') (hkind : ∀ n, kind n → kind' n) :
    Fits kind' levels' j := by
  induction h generalizing levels' with
  | null => exact .null
  | bool b => exact .bool b
  | num h => exact .num (hkind _ h)
  | str s => exact .str s
  | arr _ ih =>
      obtain ⟨levels', rfl⟩ : ∃ below, levels' = below + 1 := ⟨levels' - 1, by omega⟩
      exact .arr fun item hmem => ih item hmem (Nat.le_of_succ_le_succ hlevels)
  | obj increasing _ ih =>
      obtain ⟨levels', rfl⟩ : ∃ below, levels' = below + 1 := ⟨levels' - 1, by omega⟩
      exact .obj increasing fun field hmem => ih field hmem (Nat.le_of_succ_le_succ hlevels)

/-- What fits holds under each key something that fits one level deeper. -/
theorem Fits.get? {levels : Nat} {key : String} {j value : Json} (h : Fits kind levels j)
    (hget : j.get? key = some value) : Fits kind (levels - 1) value := by
  cases h with
  | obj _ h => exact h (key, value) (KeyMap.mem_of_lookup hget)
  | _ => cases hget

/-- What fits has only items that fit one level deeper. -/
theorem Fits.items? {levels : Nat} {j : Json} {items : List Json} (h : Fits kind levels j)
    (hitems : j.items? = some items) : ∀ item ∈ items, Fits kind (levels - 1) item := by
  cases h with
  | arr h =>
      cases hitems
      exact h
  | _ => cases hitems

/-! ## Other numbers in the same places -/

mutual

/-- The value with other numbers in the places of its numbers. -/
def mapNumbers (f : Number → Number) : Json → Json
  | .num n => .num (f n)
  | .arr items => .arr (mapNumbersOfItems f items)
  | .obj fields => .obj (mapNumbersOfFields f fields)
  | other => other

/-- The items with other numbers in the places of their numbers. -/
def mapNumbersOfItems (f : Number → Number) : List Json → List Json
  | [] => []
  | item :: items => mapNumbers f item :: mapNumbersOfItems f items

/-- The fields with other numbers in the places of their numbers. -/
def mapNumbersOfFields (f : Number → Number) : List (String × Json) → List (String × Json)
  | [] => []
  | (key, value) :: fields => (key, mapNumbers f value) :: mapNumbersOfFields f fields

end

variable {f : Number → Number}

theorem mapNumbersOfItems_eq_map (items : List Json) :
    mapNumbersOfItems f items = items.map (mapNumbers f) := by
  induction items with
  | nil => rfl
  | cons item items ih => rw [mapNumbersOfItems, ih, List.map_cons]

theorem mapNumbersOfFields_eq_map (fields : List (String × Json)) :
    mapNumbersOfFields f fields = fields.map fun field => (field.1, mapNumbers f field.2) := by
  induction fields with
  | nil => rfl
  | cons field fields ih => rw [mapNumbersOfFields, ih, List.map_cons]

/-- The value under a key has its numbers changed as well. -/
theorem lookup_mapNumbersOfFields (fields : List (String × Json)) (key : String) :
    (mapNumbersOfFields f fields).lookup key = (fields.lookup key).map (mapNumbers f) := by
  induction fields with
  | nil => rfl
  | cons field fields ih =>
      obtain ⟨name, value⟩ := field
      rw [mapNumbersOfFields, List.lookup_cons, List.lookup_cons]
      cases key == name with
      | true => rfl
      | false => exact ih

/-- Other numbers leave the keys as they are. -/
theorem keysOf_mapNumbersOfFields (fields : List (String × Json)) :
    KeyMap.keysOf (mapNumbersOfFields f fields) = KeyMap.keysOf fields := by
  rw [mapNumbersOfFields_eq_map, KeyMap.keysOf, KeyMap.keysOf, List.map_map]
  rfl

/-- A value whose numbers all stay stays itself. -/
theorem mapNumbers_eq_self {j : Json} (h : j.Numbers fun n => f n = n) : mapNumbers f j = j := by
  induction h with
  | null => rfl
  | bool b => rfl
  | num h => rw [mapNumbers, h]
  | str s => rfl
  | arr _ ih => rw [mapNumbers, mapNumbersOfItems_eq_map, List.map_congr_left ih, List.map_id']
  | obj _ ih =>
      rw [mapNumbers, mapNumbersOfFields_eq_map, List.map_congr_left (g := id), List.map_id]
      intro field hmem
      rw [ih field hmem]
      rfl

end Json

end CallTree
