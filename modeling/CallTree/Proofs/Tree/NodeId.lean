import CallTree.Tree.NodeId
import CallTree.Proofs.Text.Numerals
import CallTree.Proofs.Text.Splitting
import Mathlib.Data.List.Induction

/-!
# What the ids of calls say

The id of a call is put together from two numbers around the id of its caller.
The caller's id has dashes of its own, but the numbers have none, so the first
and the last dash are the ones that `NodeId.call` wrote.

Below a call, `NodeId.below` follows a path of indices.  Every step writes
digits and dashes only, on both sides of the id it starts from.

* `split?_call` — an id splits back into what it was put together from;
* `call_injective` — an id determines depth, caller and index;
* `split?_eq_none_of_getLast?` — what splits ends with a digit;
* `below_injective` — different paths below one call lead to different ids;
* `below_root` — below the first call an id is the list of all depths from the
  call up to the root, and then the path.
-/

namespace CallTree.Tree.NodeId

theorem toList_append_dashes (front parent back : String) :
    (front ++ "-" ++ parent ++ "-" ++ back).toList =
      front.toList ++ '-' :: (parent.toList ++ '-' :: back.toList) := by
  simp [String.toList_append]

/-- A text with dashes is not the id of the first call. -/
theorem append_dashes_ne_root (front parent back : String) :
    front ++ "-" ++ parent ++ "-" ++ back ≠ root := by
  intro h
  have hdash : '-' ∈ root.toList := by
    rw [← h, toList_append_dashes]
    simp
  exact absurd hdash (by decide)

/-- The characters of an id. -/
theorem toList_call (depth : Nat) (parent : String) (index : Nat) :
    (call depth parent index).toList =
      Nat.toDigits 10 depth ++ '-' :: (parent.toList ++ '-' :: Nat.toDigits 10 index) := by
  rw [call, toList_append_dashes, Nat.toList_repr, Nat.toList_repr]

private theorem dash_notMem_toDigits (n : Nat) : '-' ∉ Nat.toDigits 10 n :=
  Text.notMem_toDigits (by decide) (by decide) (by decide)

/-- The first and the last dash are the ones next to parts without dashes. -/
theorem parts_append {front back : List Char} (hfront : '-' ∉ front) (hback : '-' ∉ back)
    (parent : List Char) :
    parts (front ++ '-' :: (parent ++ '-' :: back)) = some (front, parent, back) := by
  rw [parts, Text.splitFirst_append hfront]
  have hlast := Text.splitLast_append parent hback
  simp [hlast]

/-- The first and the last dash of an id are the ones around the caller's id. -/
theorem parts_call (depth : Nat) (parent : String) (index : Nat) :
    parts (call depth parent index).toList =
      some (Nat.toDigits 10 depth, parent.toList, Nat.toDigits 10 index) := by
  rw [toList_call]
  exact parts_append (dash_notMem_toDigits depth) (dash_notMem_toDigits index) parent.toList

/-- **An id determines what it was put together from.** -/
theorem call_injective {depth depth' index index' : Nat} {parent parent' : String}
    (h : call depth parent index = call depth' parent' index') :
    depth = depth' ∧ parent = parent' ∧ index = index' := by
  have hparts := parts_call depth parent index
  rw [h, parts_call, Option.some.injEq, Prod.mk.injEq, Prod.mk.injEq] at hparts
  obtain ⟨hdepth, hparent, hindex⟩ := hparts
  exact ⟨(Text.toDigits_injective (by decide) (by decide) hdepth).symm,
    (String.toList_inj.mp hparent).symm,
    (Text.toDigits_injective (by decide) (by decide) hindex).symm⟩

/-- No id that was put together is the id of the first call. -/
theorem call_ne_root (depth : Nat) (parent : String) (index : Nat) :
    call depth parent index ≠ root :=
  append_dashes_ne_root depth.repr parent index.repr

/-- **An id splits back into what it was put together from**, whatever the id
of the caller is. -/
theorem split?_call {depth index : Nat} (hdepth : depth < 2 ^ 64) (hindex : index < 2 ^ 64)
    (parent : String) :
    split? (call depth parent index) = some (depth, parent, index) := by
  simp [split?, call_ne_root, parts_call, Text.readNatural_toDigits hdepth,
    Text.readNatural_toDigits hindex]

/-- The parts of an id and the dashes between them are the id. -/
theorem eq_append_of_parts {s depth parent index : List Char}
    (h : parts s = some (depth, parent, index)) :
    s = depth ++ '-' :: (parent ++ '-' :: index) := by
  obtain ⟨⟨before, rest⟩, hfirst, h⟩ := Option.bind_eq_some_iff.mp h
  obtain ⟨⟨middle, after⟩, hlast, h⟩ := Option.bind_eq_some_iff.mp h
  obtain ⟨rfl, rfl, rfl⟩ : before = depth ∧ middle = parent ∧ after = index := by
    simpa using h
  rw [Text.eq_append_of_splitFirst hfirst, Text.eq_append_of_splitLast hlast]

/-- What splits ends with a digit. -/
theorem split?_eq_none_of_getLast? {id : String} {c : Char} (hlast : id.toList.getLast? = some c)
    (hc : Text.digitIn? 10 c = none) : split? id = none := by
  have hroot : id ≠ root := by
    rintro rfl
    obtain rfl : '0' = c := Option.some.inj hlast
    exact absurd hc (by decide)
  rw [split?, if_neg hroot]
  cases hparts : parts id.toList with
  | none => rfl
  | some found =>
      obtain ⟨depth, parent, index⟩ := found
      have hindex : Text.readNatural index = none := by
        cases hread : Text.readNatural index with
        | none => rfl
        | some n =>
            -- the text read as the index is what the whole id ends with
            obtain ⟨c', d, hindex, hd⟩ := Text.exists_getLast?_of_readNatural hread
            have hend : id.toList.getLast? = some c' := by
              simp [eq_append_of_parts hparts, List.getLast?_cons, hindex]
            obtain rfl : c = c' := Option.some.inj (hlast.symm.trans hend)
            rw [hc] at hd
            cases hd
      simp [hindex]

/-- An id holds the characters of the caller's id, and digits and dashes. -/
theorem count_call {c : Char} (hdash : c ≠ '-') (hdigit : Text.digitIn? 10 c = none)
    (depth : Nat) (parent : String) (index : Nat) :
    (call depth parent index).toList.count c = parent.toList.count c := by
  have hnone (n : Nat) : (Nat.toDigits 10 n).count c = 0 :=
    List.count_eq_zero.mpr (Text.notMem_toDigits (by decide) (by decide) hdigit)
  simp [toList_call, hnone, hdash.symm]

/-! ## Paths below a call -/

/-- The depth at the end of a path. -/
def depthBelow (depth : Nat) : List Nat → Nat
  | [] => depth
  | _ :: path => depthBelow (deeper depth) path

/-- The id of the call at the end of a path, each index of which says which
call of the one before comes next. -/
def below (depth : Nat) (id : String) : List Nat → String
  | [] => id
  | index :: path => below (deeper depth) (call (deeper depth) id index) path

/-- Depths count up as long as they have 64 bits. -/
theorem depthBelow_eq {depth : Nat} {path : List Nat} (h : depth + path.length < 2 ^ 64) :
    depthBelow depth path = depth + path.length := by
  induction path generalizing depth with
  | nil => rfl
  | cons index path ih =>
      rw [List.length_cons] at h
      have hlt : depth + 1 < 2 ^ 64 := by omega
      have hdeeper : deeper depth = depth + 1 := Nat.mod_eq_of_lt hlt
      rw [depthBelow, hdeeper, ih (by omega), List.length_cons]
      omega

/-- The last step of a path puts an id together from the id before it. -/
theorem below_append_singleton (depth : Nat) (id : String) (path : List Nat) (index : Nat) :
    below depth id (path ++ [index]) =
      call (depthBelow depth (path ++ [index])) (below depth id path) index := by
  induction path generalizing depth id with
  | nil => rfl
  | cons index' path ih => exact ih (deeper depth) (call (deeper depth) id index')

/-- A path adds no character but digits and dashes. -/
theorem count_below {c : Char} (hdash : c ≠ '-') (hdigit : Text.digitIn? 10 c = none)
    (depth : Nat) (id : String) (path : List Nat) :
    (below depth id path).toList.count c = id.toList.count c := by
  induction path generalizing depth id with
  | nil => rfl
  | cons index path ih => rw [below, ih, count_call hdash hdigit]

/-- A path makes an id longer. -/
theorem length_add_le_length_below (depth : Nat) (id : String) (path : List Nat) :
    id.length + path.length ≤ (below depth id path).length := by
  induction path generalizing depth id with
  | nil => simp [below]
  | cons index path ih =>
      have hstep := ih (deeper depth) (call (deeper depth) id index)
      have hcall : id.length + 1 ≤ (call (deeper depth) id index).length := by
        simp only [call, String.length_append]
        have hdash : "-".length = 1 := rfl
        omega
      rw [below, List.length_cons]
      omega

/-- **Different paths below one call lead to different ids.** -/
theorem below_injective {depth : Nat} {id : String} {path path' : List Nat}
    (h : below depth id path = below depth id path') : path = path' := by
  induction path using List.reverseRecOn generalizing path' with
  | nil =>
      have hlength := length_add_le_length_below depth id path'
      rw [← h, below] at hlength
      exact (List.length_eq_zero_iff.mp (by omega)).symm
  | append_singleton path index ih =>
      rcases List.eq_nil_or_concat path' with rfl | ⟨front, index', rfl⟩
      · have hlength := length_add_le_length_below depth id (path ++ [index])
        rw [h, below, List.length_append, List.length_singleton] at hlength
        omega
      · rw [below_append_singleton, List.concat_eq_append, below_append_singleton] at h
        obtain ⟨_, hfront, rfl⟩ := call_injective h
        rw [ih hfront, List.concat_eq_append]

/-- The id of a call as its place says it: all depths from its own down to that
of the first call, and then the indices of the path. -/
def ofPath (path : List Nat) : String :=
  "-".intercalate (((List.range (path.length + 1)).reverse ++ path).map Nat.repr)

/-- **Below the first call an id spells out the place of its call.** -/
theorem below_root {path : List Nat} (h : path.length < 2 ^ 64) :
    below 0 root path = ofPath path := by
  induction path using List.reverseRecOn with
  | nil => rfl
  | append_singleton path index ih =>
      rw [List.length_append, List.length_singleton] at h
      have hdepth : depthBelow 0 (path ++ [index]) = path.length + 1 := by
        rw [depthBelow_eq (by simpa using h)]
        simp
      have hfront : ofPath (path ++ [index]) =
          "-".intercalate ([(path.length + 1).repr] ++
            (((List.range (path.length + 1)).reverse ++ path).map Nat.repr ++ [index.repr])) := by
        simp [ofPath, List.range_succ (n := path.length + 1)]
      rw [below_append_singleton, ih (by omega), hdepth, hfront,
        String.intercalate_append_of_ne_nil (by simp) (by simp),
        String.intercalate_append_of_ne_nil (by simp) (by simp)]
      simp [call, ofPath, String.append_assoc]

example : below 0 root [4, 7] = "2-1-0-4-7" := by decide

end CallTree.Tree.NodeId
