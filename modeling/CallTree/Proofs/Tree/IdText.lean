import CallTree.Proofs.Text.Decimals
import CallTree.Proofs.Tree.Shape

/-!
# Which texts are ids

What splits as an id, the one of the first call apart, is two numbers with a dash, any
text and another dash between them.  The text may be empty or have dashes of its own, as
the numbers have none; but with one dash alone there is nothing between two dashes.

A number may be written in several ways, so many texts split alike.  If both numbers
are canonical, the text is the one id that is put together from what it splits into.

* `split?_eq_some_iff` — which texts split, and into what;
* `eq_call_of_canonical` — a text with canonical numbers is put together again;
* `ids_split_as_written` — both, with the ids of calls in a display tree.
-/

namespace CallTree.Tree

namespace NodeId

/-- Whether a text is a depth and an index around the id of a caller, with dashes between
them: numbers of 64 bits in decimal digits, with a plus or without one. -/
def Writes (depth : Nat) (parent : String) (index : Nat) (id : String) : Prop :=
  ∃ front back : String, id = front ++ "-" ++ parent ++ "-" ++ back ∧
    Text.PlusDecimals depth front.toList ∧ depth < 2 ^ 64 ∧
    Text.PlusDecimals index back.toList ∧ index < 2 ^ 64

variable {id parent : String} {depth index : Nat}

/-- What is found is read from what stands in front of the first dash and behind the last
one. -/
theorem split?_eq_some_iff_parts (hid : id ≠ root) :
    split? id = some (depth, parent, index) ↔
      ∃ front back, parts id.toList = some (front, parent.toList, back) ∧
        Text.readNatural front = some depth ∧ Text.readNatural back = some index := by
  rw [split?, if_neg hid]
  constructor
  · intro h
    obtain ⟨⟨front, middle, back⟩, hparts, h⟩ := Option.bind_eq_some_iff.mp h
    obtain ⟨d, hfront, h⟩ := Option.bind_eq_some_iff.mp h
    obtain ⟨i, hback, h⟩ := Option.bind_eq_some_iff.mp h
    obtain ⟨rfl, rfl, rfl⟩ : d = depth ∧ String.ofList middle = parent ∧ i = index := by
      simpa using h
    rw [String.toList_ofList]
    exact ⟨front, back, hparts, hfront, hback⟩
  · rintro ⟨front, back, hparts, hfront, hback⟩
    simp [hparts, hfront, hback]

/-- **What splits is two numbers with dashes and the id of the caller between them.** -/
theorem split?_eq_some_iff (hid : id ≠ root) :
    split? id = some (depth, parent, index) ↔ Writes depth parent index id := by
  rw [split?_eq_some_iff_parts hid]
  constructor
  · rintro ⟨front, back, hparts, hfront, hback⟩
    obtain ⟨hdepth, hdepthLt⟩ := Text.readNatural_eq_some_iff.mp hfront
    obtain ⟨hindex, hindexLt⟩ := Text.readNatural_eq_some_iff.mp hback
    refine ⟨String.ofList front, String.ofList back, ?_, by simpa using hdepth, hdepthLt,
      by simpa using hindex, hindexLt⟩
    rw [← String.toList_inj, toList_append_dashes]
    simpa using eq_append_of_parts hparts
  · rintro ⟨front, back, rfl, hdepth, hdepthLt, hindex, hindexLt⟩
    refine ⟨front.toList, back.toList, ?_, Text.readNatural_eq_some_iff.mpr ⟨hdepth, hdepthLt⟩,
      Text.readNatural_eq_some_iff.mpr ⟨hindex, hindexLt⟩⟩
    -- the numbers have no dash, so the dashes are the ones around the caller's id
    rw [toList_append_dashes]
    exact parts_append (hdepth.notMem (by decide) (by decide))
      (hindex.notMem (by decide) (by decide)) parent.toList

example : split? "1-2" = none ∧ split? "+01--2" = some (1, "", 2) := by decide

/-- **A text with canonical numbers is put together from what it splits into.** -/
theorem eq_call_of_canonical {front middle back : String} (hfront : Text.Canonical front.toList)
    (hback : Text.Canonical back.toList)
    (h : split? (front ++ "-" ++ middle ++ "-" ++ back) = some (depth, parent, index)) :
    front ++ "-" ++ middle ++ "-" ++ back = call depth parent index := by
  obtain ⟨front', back', hparts, hdepth, hindex⟩ :=
    (split?_eq_some_iff_parts (append_dashes_ne_root front middle back)).mp h
  rw [toList_append_dashes, parts_append (hfront.notMem (by decide)) (hback.notMem (by decide)),
    Option.some.injEq, Prod.mk.injEq, Prod.mk.injEq] at hparts
  obtain ⟨rfl, hmiddle, rfl⟩ := hparts
  have hdepth := (Text.readNatural_eq_some_iff.mp hdepth).1.decimals hfront.toDigits
  have hindex := (Text.readNatural_eq_some_iff.mp hindex).1.decimals hback.toDigits
  rw [← String.toList_inj, toList_append_dashes, toList_call, hmiddle,
    ← hfront.eq_toDigits hdepth, ← hback.eq_toDigits hindex]

end NodeId

theorem id_ofCall (style : Style) (index depth : Nat) (parent : String) (frame : Frame) :
    (ofCall style index depth parent frame).id = NodeId.call depth parent index :=
  id_callNode ..

/-- **Which texts split as ids, and into what.**  A text other than the id of the first
call splits into a depth, the id of a caller and an index exactly if it writes them.  The
id of a call splits into what the call was placed by, and a text that splits and has
canonical numbers is the id of a call that is placed by what the text splits into. -/
theorem ids_split_as_written :
    (∀ (id parent : String) (depth index : Nat), id ≠ NodeId.root →
      (NodeId.split? id = some (depth, parent, index) ↔ NodeId.Writes depth parent index id)) ∧
    (∀ (style : Style) (frame : Frame) (parent : String) (depth index : Nat),
      depth < 2 ^ 64 → index < 2 ^ 64 →
      NodeId.split? (ofCall style index depth parent frame).id = some (depth, parent, index)) ∧
    (∀ (style : Style) (frame : Frame) (front middle back parent : String) (depth index : Nat),
      Text.Canonical front.toList → Text.Canonical back.toList →
      NodeId.split? (front ++ "-" ++ middle ++ "-" ++ back) = some (depth, parent, index) →
      (ofCall style index depth parent frame).id = front ++ "-" ++ middle ++ "-" ++ back) := by
  refine ⟨?written, ?placed, ?canonical⟩
  case written =>
    intro id parent depth index hid
    exact NodeId.split?_eq_some_iff hid
  case placed =>
    intro style frame parent depth index hdepth hindex
    rw [id_ofCall]
    exact NodeId.split?_call hdepth hindex parent
  case canonical =>
    intro style frame front middle back parent depth index hfront hback h
    rw [id_ofCall, NodeId.eq_call_of_canonical hfront hback h]

theorem ids_split_as_written_samples :
    NodeId.split? "+007-a--b-0" = some (7, "a--b", 0) ∧
    NodeId.split? (ofCall default 3 (2 ^ 64 - 1) "0-log-1" default).id =
      some (2 ^ 64 - 1, "0-log-1", 3) ∧
    (ofCall default 20 1 "" default).id = "1--20" := by
  obtain ⟨hwritten, hplaced, hcanonical⟩ := ids_split_as_written
  refine ⟨(hwritten _ _ _ _ (by decide)).mpr ?_, hplaced _ _ _ _ _ (by decide) (by decide),
    hcanonical _ _ "1" "" "20" _ _ _ ?_ ?_ (by decide)⟩
  · refine ⟨"+007", "0", by decide, ⟨['0', '0', '7'], Or.inr (by decide), ?_⟩, by decide,
      ⟨['0'], Or.inl (by decide), ?_⟩, by decide⟩
    · exact ⟨⟨by decide, List.all_eq_true.mp rfl⟩, by decide⟩
    · exact ⟨⟨by decide, List.all_eq_true.mp rfl⟩, by decide⟩
  · exact ⟨⟨by decide, List.all_eq_true.mp rfl⟩, by decide⟩
  · exact ⟨⟨by decide, List.all_eq_true.mp rfl⟩, by decide⟩

end CallTree.Tree
