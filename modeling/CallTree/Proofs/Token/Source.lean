import CallTree.Proofs.Json.Value
import CallTree.Token.Basic

/-!
# What tokens keep of their JSON

A token is read from every JSON value, and keeps the value: what does not fit a known
type stands in the token as it is.  So writing the token gives the value back.  There
is one exception.  The empty tag stands for a value that is no object with one key,
but an object may also have the empty key, and then the tag is read as such.  What is
read of `{"": x}` is therefore read of `x`, too, if `x` is no object with one key.

This matters only where a token is read: at the value itself, and at the items of a
list-like token.  Everything else is kept without being looked at.

* `TokenAt` — where a token is read inside of a value;
* `tokenInduction` — induction over these places;
* `untagged` — the value with such an `x` in place of `{"": x}`;
* `Token.source` — the untagged value that a token is read from;
* `reading_keeps_values` — what is read of two values is equal only if they are the
  same value, untagged.
-/

namespace CallTree

namespace Json

/-- Whether a value is an object with one key. -/
def hasOneKey : Json → Bool
  | .obj [_] => true
  | _ => false

theorem hasOneKey_eq_true_iff {value : Json} :
    value.hasOneKey = true ↔ ∃ tag payload, value = .obj [(tag, payload)] := by
  constructor
  · intro h
    unfold hasOneKey at h
    split at h
    case h_1 field => exact ⟨field.1, field.2, rfl⟩
    case h_2 => cases h
  · rintro ⟨tag, payload, rfl⟩
    rfl

end Json

namespace Token

/-- The tags of list-like tokens. -/
def listTags : List String := ["FixedArray", "Array", "Tuple"]

/-- Whether a token is read at a value inside of another one: at the value itself, or
inside of an item of a list-like token. -/
inductive TokenAt (inner : Json) : Json → Prop
  | here : TokenAt inner inner
  | item {tag : String} {items : List Json} {item : Json} (tagged : tag ∈ listTags)
      (mem : item ∈ items) (h : TokenAt inner item) : TokenAt inner (.obj [(tag, .arr items)])

/-- Whether every object with one key at which a token is read has a tag. -/
def Tagged (value : Json) : Prop :=
  ∀ payload, ¬ TokenAt (.obj [("", payload)]) value

theorem tagged_single {value : Json} (hkey : ∀ payload, value ≠ .obj [("", payload)])
    (hsingle : ∀ tag items, tag ∈ listTags → value ≠ .obj [(tag, .arr items)]) :
    Tagged value := by
  intro payload hat
  generalize hinner : Json.obj [("", payload)] = inner at hat
  cases hat with
  | here => exact hkey payload hinner.symm
  | item tagged _ _ => exact hsingle _ _ tagged rfl

theorem tagged_list {tag : String} {items : List Json} (htag : tag ∈ listTags)
    (hitems : ∀ item ∈ items, Tagged item) : Tagged (.obj [(tag, .arr items)]) := by
  intro payload hat
  generalize hvalue : Json.obj [(tag, .arr items)] = value at hat
  cases hat with
  | here =>
      obtain ⟨rfl, _⟩ : tag = "" ∧ .arr items = payload := by simpa using hvalue
      exact absurd htag (by decide)
  | item _ mem h =>
      obtain ⟨rfl, rfl⟩ := by simpa using hvalue
      exact hitems _ mem payload h

/-- **Induction over the places where tokens are read.**  A value is a list-like token,
has another tag, has the empty key alone, or is no object with one key. -/
theorem tokenInduction {motive : Json → Prop}
    (list : ∀ tag items, tag ∈ listTags → (∀ item ∈ items, motive item) →
      motive (.obj [(tag, .arr items)]))
    (tagged : ∀ tag payload, tag ≠ "" → (tag ∈ listTags → ∀ items, payload ≠ .arr items) →
      motive (.obj [(tag, payload)]))
    (empty : ∀ payload, motive (.obj [("", payload)]))
    (bare : ∀ value, value.hasOneKey = false → motive value)
    (value : Json) : motive value := by
  -- An array is no place for a token itself, but its items are below a tag.
  suffices hboth : motive value ∧ ∀ items, value = .arr items → ∀ item ∈ items, motive item from
    hboth.1
  induction value using Json.valueInduction with
  | null => exact ⟨bare _ rfl, by simp⟩
  | bool b => exact ⟨bare _ rfl, by simp⟩
  | num n => exact ⟨bare _ rfl, by simp⟩
  | str s => exact ⟨bare _ rfl, by simp⟩
  | arr items ih =>
      refine ⟨bare _ rfl, ?_⟩
      intro _ heq item hmem
      obtain rfl := Json.arr.inj heq
      exact (ih item hmem).1
  | obj fields ih =>
      refine ⟨?_, by simp⟩
      by_cases hkey : (Json.obj fields).hasOneKey = true
      case neg => exact bare _ (Bool.eq_false_iff.mpr hkey)
      case pos =>
        obtain ⟨tag, payload, heq⟩ := Json.hasOneKey_eq_true_iff.mp hkey
        obtain rfl := Json.obj.inj heq
        by_cases hempty : tag = ""
        · rw [hempty]
          exact empty payload
        · by_cases hlist : tag ∈ listTags ∧ ∃ items, payload = .arr items
          · obtain ⟨htag, items, rfl⟩ := hlist
            exact list tag items htag ((ih (tag, .arr items) List.mem_cons_self).2 items rfl)
          · refine tagged tag payload hempty ?_
            intro htag items hitems
            exact hlist ⟨htag, items, hitems⟩

mutual

/-- The value with `x` in place of `{"": x}` wherever a token is read, unless `x` is
itself an object with one key. -/
def untagged : Json → Json
  | .obj [(tag, payload)] =>
      if tag = "" then if payload.hasOneKey then .obj [(tag, payload)] else payload
      else .obj [(tag, untaggedPayload tag payload)]
  | value => value

/-- The payload under a tag, with its items untagged if the tag is one of a list. -/
def untaggedPayload (tag : String) : Json → Json
  | .arr items => .arr (if tag ∈ listTags then untaggedItems items else items)
  | payload => payload

/-- Several values, untagged. -/
def untaggedItems : List Json → List Json
  | [] => []
  | item :: items => untagged item :: untaggedItems items

end

mutual

/-- The untagged value that a token is read from. -/
def source : Token → Json
  | .fixedArray items => .obj [("FixedArray", .arr (sourceAll items))]
  | .array items => .obj [("Array", .arr (sourceAll items))]
  | .tuple items => .obj [("Tuple", .arr (sourceAll items))]
  | .other tag value => if tag = "" ∧ value.hasOneKey = false then value else .obj [(tag, value)]
  | token => token.toJson

/-- The untagged values that several tokens are read from. -/
def sourceAll : List Token → List Json
  | [] => []
  | item :: items => source item :: sourceAll items

end

/-! ## Item by item -/

theorem ofItems_eq_map (items : List Json) : ofItems items = items.map ofJson := by
  induction items with
  | nil => rfl
  | cons item items ih => rw [ofItems, ih, List.map_cons]

theorem toItems_eq_map (items : List Token) : toItems items = items.map toJson := by
  induction items with
  | nil => rfl
  | cons item items ih => rw [toItems, ih, List.map_cons]

theorem untaggedItems_eq_map (items : List Json) : untaggedItems items = items.map untagged := by
  induction items with
  | nil => rfl
  | cons item items ih => rw [untaggedItems, ih, List.map_cons]

theorem sourceAll_eq_map (items : List Token) : sourceAll items = items.map source := by
  induction items with
  | nil => rfl
  | cons item items ih => rw [sourceAll, ih, List.map_cons]

section List

variable {tag : String} (htag : tag ∈ listTags) (items : List Json)

include htag

/-- A list-like token is written item by item. -/
theorem toJson_ofJson_list :
    (ofJson (.obj [(tag, .arr items)])).toJson =
      .obj [(tag, .arr (items.map fun item => (ofJson item).toJson))] := by
  simp only [listTags, List.mem_cons, List.not_mem_nil, or_false] at htag
  rcases htag with rfl | rfl | rfl <;>
    simp [ofJson, ofPayload, ofItems_eq_map, toJson, toItems_eq_map]

theorem source_ofJson_list :
    source (ofJson (.obj [(tag, .arr items)])) =
      .obj [(tag, .arr (items.map fun item => source (ofJson item)))] := by
  simp only [listTags, List.mem_cons, List.not_mem_nil, or_false] at htag
  rcases htag with rfl | rfl | rfl <;>
    simp [ofJson, ofPayload, ofItems_eq_map, source, sourceAll_eq_map]

/-- Of the items of a list-like token only what is read of them counts. -/
theorem ofJson_list_congr {items' : List Json} (h : items.map ofJson = items'.map ofJson) :
    ofJson (.obj [(tag, .arr items)]) = ofJson (.obj [(tag, .arr items')]) := by
  simp only [listTags, List.mem_cons, List.not_mem_nil, or_false] at htag
  rcases htag with rfl | rfl | rfl <;> simp [ofJson, ofPayload, ofItems_eq_map, h]

theorem untagged_list :
    untagged (.obj [(tag, .arr items)]) = .obj [(tag, .arr (items.map untagged))] := by
  have hne : tag ≠ "" := by
    rintro rfl
    exact absurd htag (by decide)
  rw [untagged, if_neg hne, untaggedPayload, if_pos htag, untaggedItems_eq_map]

end List

/-! ## Payloads that are kept -/

section Kept

variable {tag : String} {payload value : Json}

/-- A payload that is not read item by item is kept under its tag. -/
theorem toJson_and_source_of_tagged (hne : tag ≠ "")
    (hsingle : tag ∈ listTags → ∀ items, payload ≠ .arr items) :
    (ofJson (.obj [(tag, payload)])).toJson = .obj [(tag, payload)] ∧
      source (ofJson (.obj [(tag, payload)])) = .obj [(tag, payload)] := by
  rw [ofJson]
  cases payload with
  | arr items =>
      unfold ofPayload
      split <;> simp_all [toJson, source, listTags]
  | str s | num n | bool b =>
      unfold ofPayload
      split <;> simp [toJson, source, hne]
  | null | obj fields => simp [ofPayload, toJson, source, hne]

theorem untagged_of_tagged (hne : tag ≠ "")
    (hsingle : tag ∈ listTags → ∀ items, payload ≠ .arr items) :
    untagged (.obj [(tag, payload)]) = .obj [(tag, payload)] := by
  rw [untagged, if_neg hne]
  cases payload with
  | arr items =>
      have hlist : tag ∉ listTags := fun htag => hsingle htag items rfl
      rw [untaggedPayload, if_neg hlist]
  | _ => rfl

/-- Under the empty key every payload is kept, with an empty tag. -/
theorem ofJson_empty (payload : Json) : ofJson (.obj [("", payload)]) = .other "" payload := by
  rw [ofJson]
  cases payload <;> simp [ofPayload]

/-- A value that is no object with one key is kept with an empty tag, too. -/
theorem ofJson_of_bare (h : value.hasOneKey = false) : ofJson value = .other "" value := by
  unfold ofJson
  split
  · cases h
  · rfl

theorem untagged_of_bare (h : value.hasOneKey = false) : untagged value = value := by
  unfold untagged
  split
  · cases h
  · rfl

end Kept

/-! ## Values and what is read of them -/

/-- **Written again, a token is the value that it was read from**, if no object with
the empty key alone was read as a token. -/
theorem toJson_ofJson {value : Json} (h : Tagged value) : (ofJson value).toJson = value := by
  induction value using tokenInduction with
  | list tag items htag ih =>
      have hitems : ∀ item ∈ items, (ofJson item).toJson = item := by
        intro item hmem
        refine ih item hmem ?_
        intro payload hat
        exact h payload (.item htag hmem hat)
      rw [toJson_ofJson_list htag, List.map_congr_left hitems, List.map_id']
  | tagged tag payload hne hsingle => exact (toJson_and_source_of_tagged hne hsingle).1
  | empty payload => exact absurd .here (h payload)
  | bare value hbare => rw [ofJson_of_bare hbare, toJson, if_pos rfl]

/-- **The source of what is read of a value is the value, untagged.** -/
theorem source_ofJson (value : Json) : source (ofJson value) = untagged value := by
  induction value using tokenInduction with
  | list tag items htag ih =>
      rw [source_ofJson_list htag, untagged_list htag, List.map_congr_left ih]
  | tagged tag payload hne hsingle =>
      rw [(toJson_and_source_of_tagged hne hsingle).2, untagged_of_tagged hne hsingle]
  | empty payload =>
      rw [ofJson_empty, source, untagged, if_pos rfl]
      cases payload.hasOneKey <;> rfl
  | bare value hbare =>
      rw [ofJson_of_bare hbare, untagged_of_bare hbare, source, if_pos ⟨rfl, hbare⟩]

/-- The untagged value is read as the value is. -/
theorem ofJson_untagged (value : Json) : ofJson (untagged value) = ofJson value := by
  induction value using tokenInduction with
  | list tag items htag ih =>
      have hitems : (items.map untagged).map ofJson = items.map ofJson := by
        rw [List.map_map]
        exact List.map_congr_left ih
      rw [untagged_list htag]
      exact ofJson_list_congr htag _ hitems
  | tagged tag payload hne hsingle => rw [untagged_of_tagged hne hsingle]
  | empty payload =>
      rw [untagged, if_pos rfl]
      cases hkey : payload.hasOneKey with
      | true => rfl
      | false => exact (ofJson_of_bare hkey).trans (ofJson_empty payload).symm
  | bare value hbare => rw [untagged_of_bare hbare]

/-- **Reading keeps values.**  What is read of a value in which no token has the empty
tag writes the value again, so it is read of no other such value.  In general the same
token is read of two values exactly if they are the same value, untagged. -/
theorem reading_keeps_values (value other : Json) :
    (Tagged value → (ofJson value).toJson = value) ∧
      (Tagged value → Tagged other → ofJson value = ofJson other → value = other) ∧
      (ofJson value = ofJson other ↔ untagged value = untagged other) := by
  refine ⟨toJson_ofJson, ?injective, ?general⟩
  case injective =>
    intro hvalue hother h
    rw [← toJson_ofJson hvalue, h, toJson_ofJson hother]
  case general =>
    constructor
    · intro h
      rw [← source_ofJson, h, source_ofJson]
    · intro h
      rw [← ofJson_untagged value, h, ofJson_untagged]

theorem reading_keeps_values_samples :
    (ofJson (.obj [("Tuple", .arr [.null, .obj [("x", .obj [("", .null)])]])])).toJson =
        .obj [("Tuple", .arr [.null, .obj [("x", .obj [("", .null)])]])] ∧
      ofJson (.obj [("Array", .arr [.obj [("", .null)]])]) =
        ofJson (.obj [("Array", .arr [.null])]) := by
  have hnull : Tagged .null := tagged_single (by simp) (by simp)
  have hunknown : Tagged (.obj [("x", .obj [("", .null)])]) := tagged_single (by simp) (by simp)
  have htuple : Tagged (.obj [("Tuple", .arr [.null, .obj [("x", .obj [("", .null)])]])]) := by
    refine tagged_list (by decide) ?_
    exact List.forall_mem_cons.mpr ⟨hnull, List.forall_mem_singleton.mpr hunknown⟩
  exact ⟨(reading_keeps_values _ .null).1 htuple, (reading_keeps_values _ _).2.2.mpr rfl⟩

end Token

end CallTree
