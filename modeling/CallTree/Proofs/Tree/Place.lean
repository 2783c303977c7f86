import CallTree.Proofs.Tree.Shape
import Mathlib.Data.List.Nodup

/-!
# The ids of a display tree are pairwise different

A node stands at a place: at the call that a path leads to, as the node of the
call itself, of its result or of one of its records.  A walk meets the nodes of
the places of a call in order, every place once, and the id of a node is that
of its place.

Why two places never share an id: a path writes only digits and dashes around
the id that it starts from, and the part of a place adds letters that tell the
parts apart.  So the letters fix the part, and what is left when the part is
cut off is the id of a call, which fixes the path.  Nothing is asked of the id
at the start, nor of the depth, which may even pass its last value.

* `map_id_walk` — the ids along a walk are those of the places of the call;
* `nodup_places` — no place is listed twice;
* `Place.idFrom_injective` — different places have different ids;
* `ids_pairwise_different` — the ids of a tree are pairwise different.
-/

namespace CallTree.Tree

/-- What a node shows of a call. -/
inductive Part where
  | call
  | failure
  | output
  | record (index : Nat)
deriving DecidableEq

/-- What the id of a part says after the id of its call. -/
def Part.suffix : Part → String
  | .call => ""
  | .failure => "-error"
  | .output => "-output"
  | .record index => "-log-" ++ index.repr

/-- Where a node stands: the path to its call, and its part of the call. -/
structure Place where
  path : List Nat
  part : Part
deriving DecidableEq

namespace Place

/-- The id of a place below a call with the given depth and id. -/
def idFrom (depth : Nat) (id : String) (place : Place) : String :=
  NodeId.below depth id place.path ++ place.part.suffix

/-- The place seen from the caller, of which the call is the one of the given
index. -/
def under (index : Nat) (place : Place) : Place :=
  ⟨index :: place.path, place.part⟩

theorem idFrom_under (depth : Nat) (id : String) (index : Nat) (place : Place) :
    (place.under index).idFrom depth id =
      place.idFrom (NodeId.deeper depth) (NodeId.call (NodeId.deeper depth) id index) :=
  rfl

/-- How often a letter stands in the id of a place. -/
theorem count_idFrom {c : Char} (hdash : c ≠ '-') (hdigit : Text.digitIn? 10 c = none)
    (depth : Nat) (id : String) (place : Place) :
    (place.idFrom depth id).toList.count c =
      id.toList.count c + place.part.suffix.toList.count c := by
  rw [idFrom, String.toList_append, List.count_append, NodeId.count_below hdash hdigit]

/-- Places with one id have parts of the same letters. -/
theorem count_suffix_eq {depth : Nat} {id : String} {place place' : Place}
    (h : place.idFrom depth id = place'.idFrom depth id) {c : Char} (hdash : c ≠ '-')
    (hdigit : Text.digitIn? 10 c = none) :
    place.part.suffix.toList.count c = place'.part.suffix.toList.count c := by
  have hcount := count_idFrom hdash hdigit depth id place
  rw [h, count_idFrom hdash hdigit] at hcount
  omega

end Place

/-- Parts of the same letters are equal, but for the index of a record. -/
theorem Part.eq_or_record_of_count {part part' : Part}
    (h : ∀ c : Char, c ≠ '-' → Text.digitIn? 10 c = none →
      part.suffix.toList.count c = part'.suffix.toList.count c) :
    part = part' ∨ ∃ index index', part = .record index ∧ part' = .record index' := by
  have hr := h 'r' (by decide) (by decide)
  have hu := h 'u' (by decide) (by decide)
  have hg := h 'g' (by decide) (by decide)
  have hrecord (index : Nat) : (Part.record index).suffix.toList.count 'g' = 1 := by
    have hnone : (Nat.toDigits 10 index).count 'g' = 0 :=
      List.count_eq_zero.mpr (Text.notMem_toDigits (by decide) (by decide) (by decide))
    have hword : "-log-".toList.count 'g' = 1 := by decide
    rw [suffix, String.toList_append, List.count_append, Nat.toList_repr, hnone, hword]
  -- failures alone have an `r`, outputs alone have a `u`, records alone have a `g`
  cases part with
  | record index =>
      cases part' with
      | record index' => exact Or.inr ⟨index, index', rfl, rfl⟩
      | _ =>
          rw [hrecord] at hg
          exact absurd hg (by decide)
  | _ =>
      cases part' with
      | record index =>
          rw [hrecord] at hg
          exact absurd hg (by decide)
      | _ => first
        | exact Or.inl rfl
        | exact absurd hr (by decide)
        | exact absurd hu (by decide)

/-- Records of calls with one id have one index and one call. -/
theorem append_suffix_record_injective {id id' : String} {index index' : Nat}
    (h : id ++ (Part.record index).suffix = id' ++ (Part.record index').suffix) :
    id = id' ∧ index = index' := by
  have hdash (n : Nat) : '-' ∉ Nat.toDigits 10 n :=
    Text.notMem_toDigits (by decide) (by decide) (by decide)
  have hlast (id : String) (n : Nat) :
      Text.splitLast '-' (id ++ (Part.record n).suffix).toList =
        some (id.toList ++ ['-', 'l', 'o', 'g'], Nat.toDigits 10 n) := by
    have hform : (id ++ (Part.record n).suffix).toList =
        (id.toList ++ ['-', 'l', 'o', 'g']) ++ '-' :: Nat.toDigits 10 n := by
      simp [Part.suffix, String.toList_append, Nat.toList_repr]
    rw [hform, Text.splitLast_append _ (hdash n)]
  have hsplit := hlast id index
  rw [h, hlast, Option.some.injEq, Prod.mk.injEq] at hsplit
  obtain ⟨hid, hindex⟩ := hsplit
  exact ⟨(String.toList_inj.mp (List.append_cancel_right hid)).symm,
    (Text.toDigits_injective (by decide) (by decide) hindex).symm⟩

/-- **Different places have different ids.** -/
theorem Place.idFrom_injective {depth : Nat} {id : String} {place place' : Place}
    (h : place.idFrom depth id = place'.idFrom depth id) : place = place' := by
  obtain ⟨path, part⟩ := place
  obtain ⟨path', part'⟩ := place'
  have halike : part = part' ∨ ∃ index index', part = .record index ∧ part' = .record index' :=
    Part.eq_or_record_of_count fun _ hdash hdigit => count_suffix_eq h hdash hdigit
  rcases halike with rfl | ⟨index, index', rfl, rfl⟩
  · have hcall := (String.append_left_inj part.suffix).mp h
    obtain rfl : path = path' := NodeId.below_injective hcall
    rfl
  · obtain ⟨hcall, rfl⟩ := append_suffix_record_injective h
    obtain rfl : path = path' := NodeId.below_injective hcall
    rfl

/-! ## The places of a call -/

/-- The part that the result of a call takes, where it has one to show. -/
def resultPart? (frame : Frame) : Option Part :=
  if frame.created then none
  else if frame.success then
    if frame.output.tokens?.isSome || frame.output.text?.isSome then some .output else none
  else if frame.output.tokens?.isSome then some .failure
  else none

/-- The places of a call's own result and records. -/
def ownPlaces (frame : Frame) : List Place :=
  (resultPart? frame).toList.map (Place.mk []) ++
    (List.range (Log.records frame.logs).length).map fun index => ⟨[], .record index⟩

mutual

/-- The places of a call, in the order of a walk. -/
def places : Frame → List Place
  | frame@⟨_, _, _, _, _, _, _, _, inner, _⟩ =>
      ⟨[], .call⟩ :: (placesAll 0 inner ++ ownPlaces frame)

/-- The places of several calls, of which the first has the given index. -/
def placesAll (first : Nat) : List Frame → List Place
  | [] => []
  | frame :: frames => (places frame).map (Place.under first) ++ placesAll (first + 1) frames

end

theorem places_eq (frame : Frame) :
    places frame = ⟨[], .call⟩ :: (placesAll 0 frame.inner ++ ownPlaces frame) := by
  cases frame
  rw [places]

/-- The node of a result has the id of its place. -/
theorem map_id_resultNode? (style : Style) (depth : Nat) (id : String) (frame : Frame) :
    (resultNode? style id frame).toList.map Node.id =
      ((resultPart? frame).toList.map (Place.mk [])).map (Place.idFrom depth id) := by
  unfold resultNode? resultPart?
  cases frame.created with
  | true => rfl
  | false =>
      cases frame.success with
      | true =>
          cases htokens : frame.output.tokens? with
          | some tokens => rfl
          | none =>
              cases htext : frame.output.text? with
              | some text => rfl
              | none => rfl
      | false =>
          cases htokens : frame.output.tokens? with
          | none => rfl
          | some tokens =>
              cases tokens with
              | nil =>
                  unfold CallData.tokens? at htokens
                  split at htokens <;> cases htokens
              | cons reason rest => rfl

/-- The nodes of records have the ids of their places. -/
theorem map_id_logNodes (style : Style) (depth : Nat) (id : String) (entries : List Log.Entry) :
    (logNodes style id entries).map Node.id =
      ((List.range (Log.records entries).length).map fun index => Place.mk [] (.record index)).map
        (Place.idFrom depth id) := by
  apply List.ext_getElem
  · simp [logNodes]
  · intro index h h'
    simp [logNodes, logNode, Place.idFrom, NodeId.below, Part.suffix, String.append_assoc]

/-- The ids along a walk over several calls are those of their places. -/
theorem map_id_walkAll (style : Style) (depth : Nat) (id : String) (first : Nat)
    {frames : List Frame}
    (h : ∀ frame ∈ frames, ∀ (depth : Nat) (id : String),
      (callNode style id depth frame).walk.map Node.id =
        (places frame).map (Place.idFrom depth id)) :
    (Node.walkAll (callNodes style id (NodeId.deeper depth) first frames)).map Node.id =
      (placesAll first frames).map (Place.idFrom depth id) := by
  induction frames generalizing first with
  | nil => rfl
  | cons frame frames ih =>
      have hrest := ih (first + 1) fun frame hmem => h frame (List.mem_cons_of_mem _ hmem)
      have hfirst := h frame List.mem_cons_self (NodeId.deeper depth)
        (NodeId.call (NodeId.deeper depth) id first)
      have hunder : Place.idFrom depth id ∘ Place.under first =
          Place.idFrom (NodeId.deeper depth) (NodeId.call (NodeId.deeper depth) id first) :=
        funext fun place => Place.idFrom_under depth id first place
      rw [callNodes, Node.walkAll, List.map_append, hrest, hfirst, placesAll, List.map_append,
        List.map_map, hunder]

/-- **The ids along a walk are those of the places of the call.** -/
theorem map_id_walk (style : Style) (depth : Nat) (id : String) (frame : Frame) :
    (callNode style id depth frame).walk.map Node.id =
      (places frame).map (Place.idFrom depth id) := by
  induction frame using Frame.callInduction generalizing depth id with
  | step frame ih =>
      have hself : (Place.mk [] .call).idFrom depth id = id := by
        simp [Place.idFrom, NodeId.below, Part.suffix]
      have hcalls := map_id_walkAll style depth id 0 fun call hmem depth id => ih call hmem depth id
      rw [walk_callNode, places_eq, List.map_cons, List.map_cons, id_callNode, hself,
        List.map_append, List.map_append, hcalls, List.map_append, ownPlaces, List.map_append,
        map_id_resultNode? style depth, map_id_logNodes style depth]

/-- The places of calls from an index on begin with that index or a later one. -/
theorem exists_path_of_mem_placesAll {first : Nat} {frames : List Frame} {place : Place}
    (h : place ∈ placesAll first frames) :
    ∃ (index : Nat) (path : List Nat), first ≤ index ∧ place.path = index :: path := by
  induction frames generalizing first with
  | nil => cases h
  | cons frame frames ih =>
      rw [placesAll, List.mem_append] at h
      rcases h with hfirst | hrest
      · obtain ⟨below, _, rfl⟩ := List.mem_map.mp hfirst
        exact ⟨first, below.path, Nat.le_refl first, rfl⟩
      · obtain ⟨index, path, hle, hpath⟩ := ih hrest
        exact ⟨index, path, by omega, hpath⟩

theorem path_of_mem_ownPlaces {frame : Frame} {place : Place} (h : place ∈ ownPlaces frame) :
    place.path = [] := by
  rw [ownPlaces, List.mem_append] at h
  rcases h with hresult | hrecord
  · obtain ⟨part, _, rfl⟩ := List.mem_map.mp hresult
    rfl
  · obtain ⟨index, _, rfl⟩ := List.mem_map.mp hrecord
    rfl

theorem nodup_placesAll (first : Nat) {frames : List Frame}
    (h : ∀ frame ∈ frames, (places frame).Nodup) : (placesAll first frames).Nodup := by
  induction frames generalizing first with
  | nil => exact List.nodup_nil
  | cons frame frames ih =>
      have hfirst : ((places frame).map (Place.under first)).Nodup := by
        refine List.Nodup.map ?_ (h frame List.mem_cons_self)
        rintro ⟨path, part⟩ ⟨path', part'⟩ heq
        simpa [Place.under] using heq
      have hrest := ih (first + 1) fun frame hmem => h frame (List.mem_cons_of_mem _ hmem)
      rw [placesAll, List.nodup_append]
      refine ⟨hfirst, hrest, ?_⟩
      intro place hplace place' hplace' heq
      obtain ⟨below, _, rfl⟩ := List.mem_map.mp hplace
      obtain ⟨index, path, hle, hpath⟩ := exists_path_of_mem_placesAll hplace'
      rw [← heq] at hpath
      have hindex : first = index := (List.cons.inj hpath).1
      omega

theorem nodup_ownPlaces (frame : Frame) : (ownPlaces frame).Nodup := by
  have hresult : ((resultPart? frame).toList.map (Place.mk [])).Nodup := by
    cases resultPart? frame with
    | none => exact List.nodup_nil
    | some part => exact List.nodup_singleton _
  have hrecords : ((List.range (Log.records frame.logs).length).map
      fun index => Place.mk [] (.record index)).Nodup := by
    refine List.Nodup.map ?_ List.nodup_range
    intro index index' heq
    simpa using heq
  rw [ownPlaces, List.nodup_append]
  refine ⟨hresult, hrecords, ?_⟩
  intro place hplace place' hplace' heq
  obtain ⟨part, hpart, rfl⟩ := List.mem_map.mp hplace
  obtain ⟨index, _, rfl⟩ := List.mem_map.mp hplace'
  obtain rfl : part = .record index := congrArg Place.part heq
  -- a result never takes the part of a record
  have hnone : resultPart? frame ≠ some (.record index) := by grind [resultPart?]
  exact hnone (Option.mem_toList.mp hpart)

/-- **No place is listed twice.** -/
theorem nodup_places (frame : Frame) : (places frame).Nodup := by
  induction frame using Frame.callInduction with
  | step frame ih =>
      rw [places_eq, List.nodup_cons, List.nodup_append]
      refine ⟨?_, nodup_placesAll 0 ih, nodup_ownPlaces frame, ?_⟩
      · intro hself
        rcases List.mem_append.mp hself with hbelow | hown
        · obtain ⟨index, path, _, hpath⟩ := exists_path_of_mem_placesAll hbelow
          cases hpath
        · rw [ownPlaces, List.mem_append] at hown
          rcases hown with hresult | hrecord
          · obtain ⟨part, hpart, heq⟩ := List.mem_map.mp hresult
            obtain rfl : part = .call := congrArg Place.part heq
            have hnone : resultPart? frame ≠ some .call := by grind [resultPart?]
            exact hnone (Option.mem_toList.mp hpart)
          · obtain ⟨index, _, heq⟩ := List.mem_map.mp hrecord
            cases heq
      · intro place hplace place' hplace' heq
        obtain ⟨index, path, _, hpath⟩ := exists_path_of_mem_placesAll hplace
        rw [heq, path_of_mem_ownPlaces hplace'] at hpath
        cases hpath

/-- The ids of the nodes of a call are pairwise different. -/
theorem nodup_map_id_walk (style : Style) (depth : Nat) (id : String) (frame : Frame) :
    ((callNode style id depth frame).walk.map Node.id).Nodup := by
  rw [map_id_walk]
  exact List.Nodup.map (fun _ _ => Place.idFrom_injective) (nodup_places frame)

/-- **Ids are unique.**  All nodes of the tree of a trace have pairwise
different ids, and so have all nodes of the tree of a call at any place below
any parent id. -/
theorem ids_pairwise_different (style : Style) (frame : Frame) :
    (∀ rest : List Frame, ∃ tree, ofFrames style (frame :: rest) = some tree ∧
      (tree.walk.map Node.id).Nodup) ∧
    ∀ (index depth : Nat) (parent : String),
      ((ofCall style index depth parent frame).walk.map Node.id).Nodup := by
  constructor
  · intro rest
    exact ⟨callNode style NodeId.root 0 frame, rfl,
      nodup_map_id_walk style 0 NodeId.root frame⟩
  · intro index depth parent
    exact nodup_map_id_walk style depth (NodeId.call depth parent index) frame

end CallTree.Tree
