import CallTree.KeyMap
import Mathlib.Data.List.Nodup

/-!
# Maps made from lists

The map of a list of entries holds under a key what the last entry with the key
says; where no key stands twice, the order of the list does not count.

* `get_foldl_put`, `get?_ofList` — a key holds what is said of it last;
* `get?_ofList_of_mem`, `lookup_zip` — every entry of a list without repeated keys is
  found;
* `mem_keys_iff`, `find?_keys_eq_some_iff` — the keys of a map, and the first of
  several;
* `ofList_entries` — the map of the entries of a map is the map.
-/

namespace CallTree.KeyMap

variable {β : Type} {entries : List (String × β)} {key : String}

/-- Where no key stands twice, every entry is found under its key. -/
theorem lookup_of_mem {value : β} (hkeys : (keysOf entries).Nodup)
    (hmem : (key, value) ∈ entries) : entries.lookup key = some value := by
  induction entries with
  | nil => cases hmem
  | cons entry rest ih =>
      obtain ⟨k, v⟩ := entry
      obtain ⟨hfirst, hrest⟩ := List.nodup_cons.mp hkeys
      rcases List.mem_cons.mp hmem with heq | hmem
      · obtain ⟨rfl, rfl⟩ := Prod.mk.inj heq
        exact List.lookup_cons_self
      · have hne : key ≠ k := fun heq => hfirst (List.mem_map.mpr ⟨_, hmem, heq⟩)
        rw [List.lookup_cons, beq_eq_false_iff_ne.mpr hne]
        exact ih hrest hmem

/-- What is found under a key stands in the list. -/
theorem mem_of_lookup {value : β} (h : entries.lookup key = some value) :
    (key, value) ∈ entries := by
  obtain ⟨front, back, rfl, _⟩ := List.lookup_eq_some_iff.mp h
  exact List.mem_append_right front List.mem_cons_self

/-- Under each of several different keys stands the value of its place. -/
theorem lookup_zip {keys : List String} (hkeys : keys.Nodup) (values : List β) {place : Nat}
    (hplace : keys[place]? = some key) : (keys.zip values).lookup key = values[place]? := by
  induction keys generalizing values place with
  | nil => cases hplace
  | cons first keys ih =>
      obtain ⟨hfirst, hkeys⟩ := List.nodup_cons.mp hkeys
      cases values with
      | nil => rfl
      | cons value values =>
          cases place with
          | zero =>
              obtain rfl : first = key := Option.some.inj hplace
              exact List.lookup_cons_self
          | succ place =>
              have hne : key ≠ first := by
                rintro rfl
                exact hfirst (List.mem_of_getElem? hplace)
              rw [List.zip_cons_cons, List.lookup_cons, beq_eq_false_iff_ne.mpr hne]
              exact ih hkeys values hplace

/-- Other values leave the keys as they are. -/
theorem keysOf_map_values {γ : Type} (f : String → β → γ) (entries : List (String × β)) :
    keysOf (entries.map fun entry => (entry.1, f entry.1 entry.2)) = keysOf entries := by
  rw [keysOf, keysOf, List.map_map]
  rfl

/-- Under a key stands what is made of the value under the key. -/
theorem lookup_map_values {γ : Type} (f : String → β → γ) (entries : List (String × β))
    (key : String) :
    (entries.map fun entry => (entry.1, f entry.1 entry.2)).lookup key =
      (entries.lookup key).map (f key) := by
  induction entries with
  | nil => rfl
  | cons entry rest ih =>
      obtain ⟨k, v⟩ := entry
      by_cases hkey : key = k
      · rw [hkey, List.map_cons, List.lookup_cons_self, List.lookup_cons_self, Option.map_some]
      · rw [List.map_cons, List.lookup_cons, List.lookup_cons, beq_eq_false_iff_ne.mpr hkey]
        exact ih

/-- **What is written last counts**, wherever writing an entry changes what is found
under its key and nothing else. -/
theorem get_foldl_put {σ : Type} {put : σ → String × β → σ} {get : σ → String → Option β}
    (hself : ∀ s entry, get (put s entry) entry.1 = some entry.2)
    (hother : ∀ s entry k, k ≠ entry.1 → get (put s entry) k = get s k)
    (entries : List (String × β)) (s : σ) (key : String) :
    get (entries.foldl put s) key = (entries.reverse.lookup key).or (get s key) := by
  induction entries generalizing s with
  | nil => rfl
  | cons entry rest ih =>
      have hput : get (put s entry) key = ([entry].lookup key).or (get s key) := by
        obtain ⟨k, v⟩ := entry
        by_cases hkey : key = k
        · rw [hkey, hself, List.lookup_cons_self, Option.some_or]
        · rw [hother _ _ _ hkey, List.lookup_cons, beq_eq_false_iff_ne.mpr hkey]
          rfl
      rw [List.foldl_cons, ih, hput, List.reverse_cons, List.lookup_append, Option.or_assoc]

/-- **A key holds what is said of it last.** -/
theorem get?_ofList (entries : List (String × β)) (key : String) :
    (ofList entries).get? key = entries.reverse.lookup key := by
  have hlast := get_foldl_put (fun (m : KeyMap β) entry => m.get?_insert_self entry.1 entry.2)
    (fun m entry _ hne => m.get?_insert_of_ne hne entry.2) entries empty key
  rw [ofList, hlast]
  exact Option.or_none

/-- Every entry of a list without repeated keys is found in its map. -/
theorem get?_ofList_of_mem {value : β} (hkeys : (keysOf entries).Nodup)
    (hmem : (key, value) ∈ entries) : (ofList entries).get? key = some value := by
  have hreverse : (keysOf entries.reverse).Nodup := by
    rw [keysOf, List.map_reverse]
    exact List.nodup_reverse.mpr hkeys
  rw [get?_ofList]
  exact lookup_of_mem hreverse (List.mem_reverse.mpr hmem)

/-- A key of which the list says nothing is not in its map. -/
theorem get?_ofList_eq_none (h : entries.lookup key = none) : (ofList entries).get? key = none := by
  rw [List.lookup_eq_none_iff] at h
  rw [get?_ofList, List.lookup_eq_none_iff]
  intro entry hentry
  exact h entry (List.mem_reverse.mp hentry)

theorem nodup_keys (m : KeyMap β) : m.keys.Nodup :=
  m.increasing.imp String.ne_of_lt

/-- The keys of a map are those under which something is found. -/
theorem mem_keys_iff {m : KeyMap β} : key ∈ m.keys ↔ ∃ value, m.get? key = some value := by
  constructor
  · intro h
    obtain ⟨⟨_, value⟩, hmem, rfl⟩ := List.mem_map.mp h
    exact ⟨value, lookup_of_mem m.nodup_keys hmem⟩
  · rintro ⟨value, h⟩
    exact List.mem_map.mpr ⟨(key, value), mem_of_lookup h, rfl⟩

/-! ## Entries in the order of their keys -/

/-- No key that passes a test comes before the first one that does. -/
theorem le_of_find?_keys {m : KeyMap β} {test : String → Bool} {other : String}
    (h : m.keys.find? test = some key) (hother : other ∈ m.keys) (htest : test other = true) :
    key ≤ other := by
  obtain ⟨_, before, after, hkeys, hbefore⟩ := List.find?_eq_some_iff_append.mp h
  have hincreasing : (before ++ key :: after).Pairwise (· < ·) := hkeys ▸ m.increasing
  rw [hkeys] at hother
  rcases List.mem_append.mp hother with hmem | hmem
  · have hfails := hbefore other hmem
    rw [htest] at hfails
    cases hfails
  · rcases List.mem_cons.mp hmem with rfl | hmem
    · exact String.le_refl other
    · have hlater := (List.pairwise_append.mp hincreasing).2.1
      exact String.not_lt.mp (String.lt_asymm ((List.pairwise_cons.mp hlater).1 other hmem))

/-- **The first key that passes a test is the smallest one that does.** -/
theorem find?_keys_eq_some_iff (m : KeyMap β) (test : String → Bool) :
    m.keys.find? test = some key ↔
      key ∈ m.keys ∧ test key = true ∧ ∀ other ∈ m.keys, test other = true → key ≤ other := by
  constructor
  · intro h
    exact ⟨List.mem_of_find?_eq_some h, List.find?_some h, fun _ => le_of_find?_keys h⟩
  · rintro ⟨hmem, htest, hleast⟩
    cases hfind : m.keys.find? test with
    | none => exact absurd htest (List.find?_eq_none.mp hfind key hmem)
    | some first =>
        have hfirst := hleast first (List.mem_of_find?_eq_some hfind) (List.find?_some hfind)
        rw [String.le_antisymm (le_of_find?_keys hfind hmem htest) hfirst]

/-- A key that comes after all others is placed at the end. -/
theorem insertEntry_of_lt {value : β} (h : ∀ k ∈ keysOf entries, k < key) :
    insertEntry key value entries = entries ++ [(key, value)] := by
  induction entries with
  | nil => rfl
  | cons entry rest ih =>
      obtain ⟨k, v⟩ := entry
      obtain ⟨hk, hrest⟩ := List.forall_mem_cons.mp h
      rw [insertEntry, if_neg (String.lt_asymm hk), if_pos hk, ih hrest]
      rfl

/-- Entries that come in the order of their keys are kept as they come. -/
theorem foldl_insertEntry_of_increasing (entries : List (String × β))
    (h : (keysOf entries).Pairwise (· < ·)) :
    entries.foldl (fun kept entry => insertEntry entry.1 entry.2 kept) [] = entries := by
  have hrun (front back : List (String × β)) (h : (keysOf (front ++ back)).Pairwise (· < ·)) :
      back.foldl (fun kept entry => insertEntry entry.1 entry.2 kept) front = front ++ back := by
    induction back generalizing front with
    | nil => rw [List.append_nil, List.foldl_nil]
    | cons entry back ih =>
        have hlast : ∀ k ∈ keysOf front, k < entry.1 := by
          intro k hk
          rw [keysOf, List.map_append, List.pairwise_append] at h
          exact h.2.2 k hk entry.1 List.mem_cons_self
        rw [List.foldl_cons, insertEntry_of_lt hlast, ih, List.append_assoc]
        · rfl
        · rwa [List.append_assoc]
  exact hrun [] entries h

theorem ofList_eq_foldl (entries : List (String × β)) :
    (ofList entries).entries =
      entries.foldl (fun kept entry => insertEntry entry.1 entry.2 kept) [] := by
  have hrun (m : KeyMap β) : (entries.foldl (fun m e => m.insert e.1 e.2) m).entries =
      entries.foldl (fun kept entry => insertEntry entry.1 entry.2 kept) m.entries := by
    induction entries generalizing m with
    | nil => rfl
    | cons entry rest ih => exact ih (m.insert entry.1 entry.2)
  exact hrun empty

/-- Entries that are placed one by one are in the order of their keys. -/
theorem foldl_insertEntry_increasing (entries : List (String × β)) :
    (keysOf (entries.foldl (fun kept entry => insertEntry entry.1 entry.2 kept) [])).Pairwise
      (· < ·) :=
  ofList_eq_foldl entries ▸ (ofList entries).increasing

/-- What is listed after placing a key was listed before, or is what was placed. -/
theorem mem_insertEntry {value : β} {entry : String × β}
    (h : entry ∈ insertEntry key value entries) : entry = (key, value) ∨ entry ∈ entries := by
  induction entries with
  | nil => exact Or.inl (List.mem_singleton.mp h)
  | cons first rest ih =>
      rw [insertEntry] at h
      split at h
      · exact List.mem_cons.mp h
      · split at h
        · rcases List.mem_cons.mp h with rfl | h
          · exact Or.inr List.mem_cons_self
          · exact (ih h).imp_right (List.mem_cons_of_mem first)
        · exact (List.mem_cons.mp h).imp_right (List.mem_cons_of_mem first)

/-- What is listed after placing some entries is one of them. -/
theorem mem_of_mem_foldl_insertEntry {entry : String × β}
    (h : entry ∈ entries.foldl (fun kept entry => insertEntry entry.1 entry.2 kept) []) :
    entry ∈ entries := by
  have hrun (entries kept : List (String × β))
      (h : entry ∈ entries.foldl (fun kept entry => insertEntry entry.1 entry.2 kept) kept) :
      entry ∈ kept ∨ entry ∈ entries := by
    induction entries generalizing kept with
    | nil => exact Or.inl h
    | cons first rest ih =>
        rcases ih (insertEntry first.1 first.2 kept) h with h | h
        · rcases mem_insertEntry h with rfl | h
          · exact Or.inr List.mem_cons_self
          · exact Or.inl h
        · exact Or.inr (List.mem_cons_of_mem first h)
  exact (hrun entries [] h).resolve_left List.not_mem_nil

theorem eq_of_entries {m n : KeyMap β} (h : m.entries = n.entries) : m = n := by
  cases m
  cases n
  congr

/-- **The map of the entries of a map is the map.** -/
theorem ofList_entries (m : KeyMap β) : ofList m.entries = m :=
  eq_of_entries ((ofList_eq_foldl m.entries).trans
    (foldl_insertEntry_of_increasing m.entries m.increasing))

/-- In a map it does not matter from which end a key is looked up. -/
theorem lookup_reverse_entries (m : KeyMap β) (key : String) :
    m.entries.reverse.lookup key = m.get? key := by
  rw [← get?_ofList, ofList_entries]

end CallTree.KeyMap
