import CallTree.Proofs.Frame.Form
import CallTree.Proofs.Frame.Path

/-!
# Lists with a malformed item

A frame lists the calls that it made and the logs that it emitted.  A part of a
frame that is malformed counts as empty, and a list is one part: it is read item
by item, but a single item that is no object takes all others of its list with
it.  The damage ends there.  The frame is read, its other list as well, and so
are the frames around it.

* `ReadsWhole` — a list is read completely or not at all;
* `readsWhole_calls`, `readsWhole_logsOf` — both lists of a frame are;
* `Reaches` — the frames inside of a frame to which lists without malformed items
  lead;
* `lists_read_whole` — the lists of all frames inside of a frame;
* `siblings_of_malformed_lost` — a list with a malformed item is lost, although
  each of its objects would be read alone.
-/

namespace CallTree

namespace Json

/-- Whether a value is an object. -/
def isObject : Json → Bool
  | .obj _ => true
  | _ => false

/-- Whether a value is no container. -/
def isScalar : Json → Bool
  | .arr _ => false
  | .obj _ => false
  | _ => true

end Json

namespace Frame

section Lists

variable {α : Type} (read : Json → Except ShapeError α) (part : Option Json) (found : List α)

/-- Whether a list of objects is read completely, item by item, and a list with
a scalar not at all. -/
structure ReadsWhole : Prop where
  whole : ∀ items, part = some (.arr items) → (∀ item ∈ items, item.isObject = true) →
    List.Forall₂ (fun item x => read item = .ok x) items found
  lost : ∀ items item, part = some (.arr items) → item ∈ items → item.isScalar = true →
    found = []

/-- Whether what was found in a list of objects and scalars includes all of its
objects, in order and each as it is read alone. -/
def KeepsObjects : Prop :=
  ∀ items, part = some (.arr items) →
    (∀ item ∈ items, item.isObject = true ∨ item.isScalar = true) →
      ∃ kept, kept.Sublist found ∧
        List.Forall₂ (fun item x => read item = .ok x) (items.filter Json.isObject) kept

variable {read part found}

/-- Where items are read one by one and a list with a malformed one counts as
empty, a list is read completely or not at all. -/
theorem readsWhole_of_forall₂ {readAll : List Json → Except ShapeError (List α)}
    (hall : ∀ items xs,
      readAll items = .ok xs ↔ List.Forall₂ (fun item x => read item = .ok x) items xs)
    (hobject : ∀ item, item.isObject = true → ∃ x, read item = .ok x)
    (hscalar : ∀ item x, item.isScalar = true → read item ≠ .ok x)
    (hfound : ∀ items, part = some (.arr items) → found = (readAll items).toOption.getD []) :
    ReadsWhole read part found := by
  constructor
  case whole =>
    intro items hpart hobjects
    obtain ⟨xs, hxs⟩ := (exists_forall₂_iff items).mpr fun item hmem =>
      hobject item (hobjects item hmem)
    rw [hfound items hpart, (hall items xs).mpr hxs]
    exact hxs
  case lost =>
    intro items item hpart hmem hitem
    rw [hfound items hpart]
    cases hread : readAll items with
    | error e => rfl
    | ok xs =>
        have hxs := (hall items xs).mp hread
        obtain ⟨index, hlt, rfl⟩ := List.getElem_of_mem hmem
        have hx := hxs.get hlt (hxs.length_eq ▸ hlt)
        exact absurd hx (hscalar _ _ hitem)

end Lists

/-! ## The two lists of a frame -/

/-- Entries are read one by one. -/
theorem entries_eq_ok_iff (items : List Json) (entries : List Log.Entry) :
    Log.Entry.listOfJson (.arr items) = .ok entries ↔
      List.Forall₂ (fun item entry => Log.Entry.ofJson item = .ok entry) items entries :=
  mapM_eq_ok_iff Log.Entry.ofJson items entries

/-- The calls of a frame are those under the first key for them. -/
theorem innerUnder_eq (fields : List (String × Json)) :
    innerUnder fields = ((fields.lookup "inner").map calls).getD [] := by
  induction fields with
  | nil => rw [innerUnder, List.lookup_nil, Option.map_none, Option.getD_none]
  | cons field fields ih =>
      obtain ⟨key, value⟩ := field
      rw [innerUnder]
      by_cases hkey : key = "inner"
      · rw [if_pos hkey, hkey, List.lookup_cons_self, Option.map_some, Option.getD_some]
      · have hbeq : ("inner" == key) = false := beq_eq_false_iff_ne.mpr (Ne.symm hkey)
        rw [if_neg hkey, ih, List.lookup_cons, hbeq]

/-- **The calls of a frame are read completely or not at all.** -/
theorem readsWhole_calls (fields : List (String × Json)) :
    ReadsWhole ofJson (fields.lookup "inner") (innerUnder fields) := by
  refine readsWhole_of_forall₂ listOfItems_eq_ok_iff ?_ ?_ ?_
  · intro item hobject
    cases item with
    | obj fields => exact (ofJson_isOk_iff _).mpr (Form.object fields)
    | _ => cases hobject
  · intro item frame hscalar hread
    have hform := (ofJson_isOk_iff item).mp ⟨frame, hread⟩
    cases hform with
    | object fields => cases hscalar
    | parts items h => cases hscalar
  · intro items hpart
    rw [innerUnder_eq, hpart, Option.map_some, Option.getD_some, calls]
    cases listOfItems items with
    | ok frames => rfl
    | error e => rfl

/-- **The logs of a frame are read completely or not at all.** -/
theorem readsWhole_logsOf (part : Option Json) :
    ReadsWhole Log.Entry.ofJson part (logsOf part) := by
  refine readsWhole_of_forall₂ entries_eq_ok_iff ?_ ?_ ?_
  · intro item hobject
    cases item with
    | obj fields => exact ⟨_, rfl⟩
    | _ => cases hobject
  · intro item entry hscalar hread
    cases item with
    | obj fields => cases hscalar
    | _ => cases hread
  · rintro items rfl
    rw [logsOf]
    cases Log.Entry.listOfJson (.arr items) with
    | ok entries => rfl
    | error e => rfl

/-! ## The frames inside of a frame -/

/-- Whether a path of indices leads from a value to a value inside, through
lists of calls that hold nothing but objects. -/
inductive Reaches : Json → List Nat → Json → Prop
  | here (fields : List (String × Json)) : Reaches (.obj fields) [] (.obj fields)
  | deeper {fields : List (String × Json)} {items : List Json} {index : Nat} {next target : Json}
      {path : List Nat} (list : fields.lookup "inner" = some (.arr items))
      (objects : ∀ item ∈ items, item.isObject = true) (item : items[index]? = some next)
      (rest : Reaches next path target) : Reaches (.obj fields) (index :: path) target

/-- **A path through intact lists leads to the call that is read at its end.** -/
theorem exists_call_of_reaches {j target : Json} {path : List Nat} {frame : Frame}
    (h : Reaches j path target) (hframe : ofJson j = .ok frame) :
    ∃ call, frame.call? path = some call ∧ ofJson target = .ok call := by
  induction h generalizing frame with
  | here fields => exact ⟨frame, rfl, hframe⟩
  | @deeper fields items index next target path list objects item rest ih =>
      obtain rfl := Except.ok.inj hframe
      have hread := (readsWhole_calls fields).whole items list objects
      obtain ⟨hlt, hnext⟩ := List.getElem?_eq_some_iff.mp item
      have hlt' : index < (innerUnder fields).length := hread.length_eq ▸ hlt
      have hcall := hread.get hlt hlt'
      rw [List.get_eq_getElem, List.get_eq_getElem, hnext] at hcall
      obtain ⟨call, hpath, htarget⟩ := ih hcall
      refine ⟨call, ?_, htarget⟩
      have hinner : (ofParts (fun key => fields.lookup key) (innerUnder fields)).inner[index]? =
          some (innerUnder fields)[index] := List.getElem?_eq_getElem hlt'
      rw [call?, hinner, Option.bind_some]
      exact hpath

/-- What is no call is read the same, whatever the list of calls holds. -/
theorem exists_inner_of_lookup {fields other : List (String × Json)} {frame : Frame}
    (hframe : ofJson (.obj fields) = .ok frame)
    (hsame : ∀ key, key ≠ "inner" → other.lookup key = fields.lookup key) :
    ∃ inner, ofJson (.obj other) = .ok { frame with inner := inner } := by
  obtain rfl := Except.ok.inj hframe
  refine ⟨innerUnder other, ?_⟩
  rw [ofJson]
  simp [ofParts, hsame]

/-- What is no log is read the same, whatever the list of logs holds. -/
theorem exists_logs_of_lookup {fields other : List (String × Json)} {frame : Frame}
    (hframe : ofJson (.obj fields) = .ok frame)
    (hsame : ∀ key, key ≠ "logs" → other.lookup key = fields.lookup key) :
    ∃ logs, ofJson (.obj other) = .ok { frame with logs := logs } := by
  obtain rfl := Except.ok.inj hframe
  have hinner : innerUnder other = innerUnder fields := by
    rw [innerUnder_eq, innerUnder_eq, hsame "inner" (by decide)]
  refine ⟨logsOf (other.lookup "logs"), ?_⟩
  rw [ofJson, hinner]
  simp [ofParts, hsame]

/-- **A malformed item takes its own list with it, and nothing else.**  A frame
that is an object is read, and so are all frames inside of it to which lists
without malformed items lead, each as it is read alone.  Both lists of each of
them are read completely if they hold nothing but objects, and count as empty if
they hold a scalar; whatever one list holds, all other parts are read the same. -/
theorem lists_read_whole (fields : List (String × Json)) :
    ∃ frame, ofJson (.obj fields) = .ok frame ∧
      ∀ path target, Reaches (.obj fields) path (.obj target) →
        ∃ call, frame.call? path = some call ∧ ofJson (.obj target) = .ok call ∧
          ReadsWhole ofJson (target.lookup "inner") call.inner ∧
          ReadsWhole Log.Entry.ofJson (target.lookup "logs") call.logs ∧
          ∀ other : List (String × Json),
            ((∀ key, key ≠ "inner" → other.lookup key = target.lookup key) →
              ∃ inner, ofJson (.obj other) = .ok { call with inner := inner }) ∧
            ((∀ key, key ≠ "logs" → other.lookup key = target.lookup key) →
              ∃ logs, ofJson (.obj other) = .ok { call with logs := logs }) := by
  have hframe : ofJson (.obj fields) =
      .ok (ofParts (fun key => fields.lookup key) (innerUnder fields)) := rfl
  refine ⟨_, hframe, fun path target hreaches => ?_⟩
  obtain ⟨call, hpath, hcall⟩ := exists_call_of_reaches hreaches hframe
  refine ⟨call, hpath, hcall, ?calls, ?logs, fun other => ⟨?_, ?_⟩⟩
  case calls =>
    obtain rfl := Except.ok.inj hcall
    exact readsWhole_calls target
  case logs =>
    obtain rfl := Except.ok.inj hcall
    exact readsWhole_logsOf (target.lookup "logs")
  · exact exists_inner_of_lookup hcall
  · exact exists_logs_of_lookup hcall

/-- A frame with a number among its calls and a `null` among its logs. -/
def damaged : List (String × Json) :=
  [("inner", .arr [.obj [("name", .str "a")], .num (.int 5), .obj [("name", .str "b")]]),
    ("logs", .arr [.obj [("event", .str "Set")], .null])]

/-- **The siblings of a malformed item are lost**, although each of them would be
read alone. -/
theorem siblings_of_malformed_lost :
    ∃ frame, ofJson (.obj damaged) = .ok frame ∧
      ¬ KeepsObjects ofJson (damaged.lookup "inner") frame.inner ∧
      ¬ KeepsObjects Log.Entry.ofJson (damaged.lookup "logs") frame.logs := by
  refine ⟨_, rfl, ?_, ?_⟩
  · intro hkeeps
    obtain ⟨kept, hsub, hkept⟩ := hkeeps _ rfl (by decide)
    have hnil : kept = [] := List.eq_nil_of_sublist_nil hsub
    rw [hnil] at hkept
    cases hkept
  · intro hkeeps
    obtain ⟨kept, hsub, hkept⟩ := hkeeps _ rfl (by decide)
    have hnil : kept = [] := List.eq_nil_of_sublist_nil hsub
    rw [hnil] at hkept
    cases hkept

end Frame

end CallTree
