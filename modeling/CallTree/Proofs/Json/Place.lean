import CallTree.Proofs.Json.Value

/-!
# Places inside of a value

A value stands inside of another one below a list of keys: each key leads into an
object, and only an object has keys.

* `holdsAt_nil`, `holdsAt_cons` — one key at a time, as a reader looks them up;
* `HoldsAt.sorted` — what stands inside of a sorted value is sorted;
* `get?_pick` — what a value holds without the keys that do not count.
-/

namespace CallTree.Json

/-- Whether a value holds another one below some keys. -/
inductive HoldsAt : (whole : Json) → (keys : List String) → (part : Json) → Prop
  | here (j : Json) : HoldsAt j [] j
  | field {fields : List (String × Json)} {key : String} {keys : List String} {value part : Json}
      (found : fields.lookup key = some value) (inside : HoldsAt value keys part) :
      HoldsAt (.obj fields) (key :: keys) part

variable {j part : Json} {key : String} {keys : List String}

theorem items?_eq_some_iff {items : List Json} : j.items? = some items ↔ j = .arr items := by
  cases j <;> simp [items?]

theorem holdsAt_nil : j.HoldsAt [] part ↔ part = j := by
  constructor
  · rintro ⟨⟩
    rfl
  · rintro rfl
    exact .here part

/-- What stands below several keys stands below the others in what the first one
holds. -/
theorem holdsAt_cons :
    j.HoldsAt (key :: keys) part ↔ ∃ value, j.get? key = some value ∧ value.HoldsAt keys part := by
  constructor
  · intro h
    cases h with
    | field found inside => exact ⟨_, found, inside⟩
  · rintro ⟨value, hvalue, hinside⟩
    cases j with
    | obj fields => exact .field hvalue hinside
    | _ => cases hvalue

theorem holdsAt_singleton : j.HoldsAt [key] part ↔ j.get? key = some part := by
  simp [holdsAt_cons, holdsAt_nil]

/-- What stands inside of a value with sorted objects has sorted objects. -/
theorem HoldsAt.sorted (h : j.HoldsAt keys part) (hsorted : j.Sorted) : part.Sorted := by
  induction h with
  | here j => exact hsorted
  | field found _ ih =>
      cases hsorted with
      | obj _ hvalues => exact ih (hvalues _ (KeyMap.mem_of_lookup found))

/-! ## Keys that count -/

/-- An object with the named keys alone, and with what they hold changed in the way
that is given for each; any other value as it is. -/
def pick (named : List (String × (Json → Json))) : Json → Json
  | .obj fields => .obj (fields.filterMap fun field =>
      (named.lookup field.1).map fun change => (field.1, change field.2))
  | other => other

/-- Below a named key stands what stood there, changed in its way. -/
theorem get?_pick {named : List (String × (Json → Json))} {change : Json → Json}
    (hkey : named.lookup key = some change) (j : Json) :
    (pick named j).get? key = (j.get? key).map change := by
  cases j with
  | obj fields =>
      rw [pick, get?, get?]
      induction fields with
      | nil => rfl
      | cons field fields ih =>
          obtain ⟨name, value⟩ := field
          by_cases hname : key = name
          · subst hname
            simp [hkey]
          · rw [List.lookup_cons, beq_eq_false_iff_ne.mpr hname]
            cases hother : named.lookup name with
            | none =>
                rw [List.filterMap_cons, hother]
                exact ih
            | some otherChange =>
                rw [List.filterMap_cons, hother, Option.map_some]
                dsimp only
                rw [List.lookup_cons, beq_eq_false_iff_ne.mpr hname]
                exact ih
  | _ => rfl

end CallTree.Json
