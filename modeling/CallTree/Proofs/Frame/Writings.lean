import CallTree.Proofs.Frame.Malformed

/-!
# The ways to write a frame

A frame is written as an object or as the list of its parts, and the calls that it
made are written in the same two ways again.  Which of them is chosen makes no
difference, nor do the order of the keys and keys that name no part, at any depth.
For what is read of a frame are its ten parts, and both ways give each of them:
an object under its name, a list at its place.

A trace of a single frame may be written as the frame alone or as a list, with or
without a wrapper.

* `part?` — a part of a frame, by name;
* `ofJson_of_form` — a frame is read from its parts;
* `Alike` — two values that write one frame, perhaps with calls that are written
  differently;
* `ofJson_of_alike` — what is read from both is the same;
* `writings_read_alike` — so they may be exchanged wherever a frame stands.
-/

namespace CallTree.Frame

/-! ## Parts -/

/-- What a value that writes a frame holds for a part of it. -/
def part? (name : String) : Json → Option Json
  | .obj fields => fields.lookup name
  | .arr items => (partNames.zip items).lookup name
  | _ => none

/-- The calls at a place in a list. -/
theorem innerAt_eq (place : Nat) (items : List Json) :
    innerAt place items = ((items[place]?).map calls).getD [] := by
  induction items generalizing place with
  | nil => rw [innerAt, List.getElem?_nil, Option.map_none, Option.getD_none]
  | cons item items ih =>
      cases place with
      | zero => rw [innerAt, List.getElem?_cons_zero, Option.map_some, Option.getD_some]
      | succ place => rw [innerAt, ih, List.getElem?_cons_succ]

/-- **A frame is read from its parts**, whether it is an object or a list. -/
theorem ofJson_of_form {j : Json} (h : Form j) :
    ofJson j = .ok (ofParts (fun name => part? name j) (((part? "inner" j).map calls).getD [])) := by
  cases h with
  | object fields =>
      rw [ofJson, innerUnder_eq]
      rfl
  | parts items hlength =>
      have hparts : items.length ≤ partNames.length := hlength
      have hinner : (partNames.zip items).lookup "inner" = items[innerPlace]? :=
        KeyMap.lookup_zip (by decide) items rfl
      rw [ofJson, if_pos hparts, innerAt_eq, ← hinner]
      rfl

/-- Only its parts count for a frame, and its calls. -/
theorem ofParts_congr {part part' : String → Option Json} (inner : List Frame)
    (h : ∀ name ∈ partNames, name ≠ "inner" → part name = part' name) :
    ofParts part inner = ofParts part' inner := by
  simp only [partNames, List.mem_cons, List.not_mem_nil, or_false, ne_eq, forall_eq_or_imp,
    String.reduceEq, not_false_eq_true, forall_const, not_true_eq_false, IsEmpty.forall_iff,
    forall_eq, true_and] at h
  simp only [ofParts, h]

/-! ## Ways to write one frame -/

/-- Two values that write one frame.  Both have the form of a frame and hold the same
parts, or all the same parts but the calls, and in the list of calls one call is written
in another way. -/
inductive Alike : Json → Json → Prop
  | parts {j k : Json} (form : Form j) (form' : Form k)
      (same : ∀ name ∈ partNames, part? name j = part? name k) : Alike j k
  | inner {j k call call' : Json} {before after : List Json} (form : Form j) (form' : Form k)
      (same : ∀ name ∈ partNames, name ≠ "inner" → part? name j = part? name k)
      (list : part? "inner" j = some (.arr (before ++ call :: after)))
      (list' : part? "inner" k = some (.arr (before ++ call' :: after)))
      (alike : Alike call call') : Alike j k
  | trans {j k l : Json} (alike : Alike j k) (alike' : Alike k l) : Alike j l

/-- What is read alike may be exchanged in a list of frames. -/
theorem listOfItems_congr {j k : Json} (h : ofJson j = ofJson k) (before after : List Json) :
    listOfItems (before ++ j :: after) = listOfItems (before ++ k :: after) := by
  induction before with
  | nil => simp only [List.nil_append, listOfItems, h]
  | cons item before ih => simp only [List.cons_append, listOfItems, ih]

/-- **What writes one frame is read alike.** -/
theorem ofJson_of_alike {j k : Json} (h : Alike j k) : ofJson j = ofJson k := by
  induction h with
  | parts form form' same =>
      have hinner := same "inner" (by decide)
      rw [ofJson_of_form form, ofJson_of_form form', hinner]
      exact congrArg Except.ok (ofParts_congr _ fun name hname _ => same name hname)
  | @inner j k call call' before after form form' same list list' _ ih =>
      -- The call that is written differently is read alike, so the whole list is.
      have hcalls : calls (.arr (before ++ call :: after)) = calls (.arr (before ++ call' :: after)) := by
        rw [calls, calls, listOfItems_congr ih]
      rw [ofJson_of_form form, ofJson_of_form form', list, list', Option.map_some, Option.map_some,
        hcalls]
      exact congrArg Except.ok (ofParts_congr _ same)
  | trans _ _ ih ih' => exact ih.trans ih'

/-! ## Traces -/

/-- A trace of a single frame may be written as a list. -/
theorem traceOfJson_single {fields : List (String × Json)} (h : fields.lookup "trace" = none) :
    ∃ frame, ofJson (.obj fields) = .ok frame ∧
      ∀ j ∈ [Json.obj fields, .arr [.obj fields]], traceOfJson j = .ok [frame] := by
  refine ⟨_, rfl, List.forall_mem_cons.mpr ⟨?_, List.forall_mem_singleton.mpr rfl⟩⟩
  rw [traceOfJson_obj, h]
  rfl

/-- An object with a trace is read as the trace, whatever else it holds. -/
theorem traceOfJson_wrapped {outer : List (String × Json)} {j : Json}
    (h : outer.lookup "trace" = some j) : traceOfJson (.obj outer) = traceOfJson j := by
  rw [traceOfJson_obj, h]

/-- **All ways to write a frame are read alike.**  An object without the key `trace` is
read as the same single frame alone and in a list, with and without a wrapper.  A list
of at most ten parts is read as an object that binds the names of the parts to them, and
the parts of the frame are what is written; what an object holds under other keys does
not matter.  And wherever a frame stands in a list of frames, it may be written in
another way, as may the calls inside of it. -/
theorem writings_read_alike :
    (∀ fields : List (String × Json), fields.lookup "trace" = none →
      ∃ frame, ofJson (.obj fields) = .ok frame ∧
        ∀ j ∈ [Json.obj fields, .arr [.obj fields]], traceOfJson j = .ok [frame] ∧
          ∀ outer : List (String × Json), outer.lookup "trace" = some j →
            traceOfJson (.obj outer) = .ok [frame]) ∧
    (∀ (items : List Json) (fields : List (String × Json)), items.length ≤ 10 →
      (∀ name ∈ partNames, fields.lookup name = (partNames.zip items).lookup name) →
        ∃ frame, ofJson (.arr items) = .ok frame ∧ ofJson (.obj fields) = .ok frame ∧
          frame = ofParts (fun name => fields.lookup name) frame.inner) ∧
    (∀ fields other : List (String × Json),
      (∀ name ∈ partNames, other.lookup name = fields.lookup name) →
        ofJson (.obj other) = ofJson (.obj fields)) ∧
    ∀ j k : Json, Alike j k →
      ofJson j = ofJson k ∧ ∀ before after : List Json,
        traceOfJson (.arr (before ++ j :: after)) = traceOfJson (.arr (before ++ k :: after)) := by
  refine ⟨fun fields htrace => ?single, fun items fields hlength hsame => ?places,
    fun fields other hsame => ?keys, fun j k halike => ?exchanged⟩
  case single =>
    obtain ⟨frame, hframe, hread⟩ := traceOfJson_single htrace
    refine ⟨frame, hframe, fun j hj => ⟨hread j hj, fun outer houter => ?_⟩⟩
    rw [traceOfJson_wrapped houter]
    exact hread j hj
  case places =>
    have halike : Alike (.arr items) (.obj fields) :=
      .parts (.parts items hlength) (.object fields) fun name hname => (hsame name hname).symm
    exact ⟨_, (ofJson_of_alike halike).trans rfl, rfl, rfl⟩
  case keys => exact ofJson_of_alike (.parts (.object other) (.object fields) hsame)
  case exchanged =>
    have hread := ofJson_of_alike halike
    refine ⟨hread, fun before after => ?_⟩
    rw [traceOfJson, traceOfJson, listOfItems_congr hread]

/-- A frame as the list of its first two parts. -/
def listed : List Json :=
  [.str "Token", .str "transfer"]

/-- The same frame as an object, with a key that names no part. -/
def bound : List (String × Json) :=
  [("function", .str "transfer"), ("gas", .null), ("name", .str "Token")]

/-- A frame that made one call. -/
def caller (call : Json) : Json :=
  .obj [("inner", .arr [call]), ("success", .bool true)]

theorem listed_same_bound :
    ∀ name ∈ partNames, bound.lookup name = (partNames.zip listed).lookup name := by
  simp [partNames, bound, listed, List.lookup_cons]

theorem alike_caller : Alike (caller (.arr listed)) (caller (.obj bound)) := by
  have hcall : Alike (.arr listed) (.obj bound) :=
    .parts (.parts listed (by decide)) (.object bound) fun name hname =>
      (listed_same_bound name hname).symm
  refine @Alike.inner _ _ (.arr listed) (.obj bound) [] [] (.object _) (.object _) ?_ rfl rfl hcall
  intro name _ hname
  simp [caller, part?, List.lookup_cons, beq_eq_false_iff_ne.mpr hname]

theorem writings_read_alike_samples :
    ofJson (.arr listed) = ofJson (.obj bound) ∧
      traceOfJson (.arr [caller (.arr listed)]) = traceOfJson (.arr [caller (.obj bound)]) ∧
      traceOfJson (.obj [("label", .null), ("trace", .arr [.obj bound])]) =
        traceOfJson (.obj bound) := by
  obtain ⟨frame, hlisted, hbound, _⟩ :=
    writings_read_alike.2.1 listed bound (by decide) listed_same_bound
  obtain ⟨single, _, hread⟩ := writings_read_alike.1 bound rfl
  have halone := (hread (.obj bound) (by simp)).1
  have hwrapped := (hread (.arr [.obj bound]) (by simp)).2
  exact ⟨hlisted.trans hbound.symm, (writings_read_alike.2.2.2 _ _ alike_caller).2 [] [],
    (hwrapped _ rfl).trans halone.symm⟩

end CallTree.Frame
