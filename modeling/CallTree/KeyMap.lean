/-!
# Maps with text keys

A `KeyMap` lists its entries in strictly increasing key order.  Texts are
compared by code points, which is also the order of their UTF-8 bytes, so a
listing never depends on the order in which entries arrived.

`KeyMap.insertEntry` is the one operation that places a key; everything that
sorts by key goes through it, also the fields of a JSON object, which are
kept as a plain list.

* `insertEntry_increasing` — placing a key keeps the keys increasing;
* `lookup_insertEntry_self`, `lookup_insertEntry_of_ne` — the placed key
  reads back its new value, and every other key keeps its value.
-/

namespace CallTree

variable {β γ : Type}

namespace KeyMap

/-- Puts `value` under `key`: before the first larger key, or in place of the
value that the key had. -/
def insertEntry (key : String) (value : β) : List (String × β) → List (String × β)
  | [] => [(key, value)]
  | (k, v) :: rest =>
      if key < k then (key, value) :: (k, v) :: rest
      else if k < key then (k, v) :: insertEntry key value rest
      else (key, value) :: rest

/-- The keys of a list of entries. -/
def keysOf (entries : List (String × β)) : List String :=
  entries.map Prod.fst

/-- Two texts of which neither comes before the other are equal. -/
theorem eq_of_not_lt {a b : String} (h : ¬ a < b) (h' : ¬ b < a) : a = b :=
  String.le_antisymm (String.not_lt.1 h') (String.not_lt.1 h)

/-- After placing a key, the keys are the old ones and the new one. -/
theorem mem_keysOf_insertEntry {key k : String} {value : β} {entries : List (String × β)} :
    k ∈ keysOf (insertEntry key value entries) ↔ k = key ∨ k ∈ keysOf entries := by
  induction entries with
  | nil => simp [insertEntry, keysOf]
  | cons e rest ih =>
      obtain ⟨k', v'⟩ := e
      simp only [insertEntry]
      split
      · simp [keysOf]
      · split
        · simp only [keysOf, List.map_cons, List.mem_cons] at ih ⊢
          rw [ih]
          constructor
          · rintro (h | h | h) <;> simp [h]
          · rintro (h | h | h) <;> simp [h]
        · rename_i h h'
          have : key = k' := eq_of_not_lt h h'
          simp [keysOf, this]

/-- **Placing a key keeps the keys increasing.** -/
theorem insertEntry_increasing (key : String) (value : β) {entries : List (String × β)}
    (h : (keysOf entries).Pairwise (· < ·)) :
    (keysOf (insertEntry key value entries)).Pairwise (· < ·) := by
  induction entries with
  | nil => simp [insertEntry, keysOf]
  | cons e rest ih =>
      obtain ⟨k', v'⟩ := e
      obtain ⟨hk, hrest⟩ := List.pairwise_cons.1 h
      simp only [insertEntry]
      split
      · rename_i hlt
        refine List.pairwise_cons.2 ⟨?_, h⟩
        intro a ha
        rcases List.mem_cons.1 ha with rfl | ha
        · exact hlt
        · exact String.lt_trans hlt (hk a ha)
      · split
        · rename_i hlt
          refine List.pairwise_cons.2 ⟨?_, ih hrest⟩
          intro a ha
          rcases mem_keysOf_insertEntry.1 ha with rfl | ha
          · exact hlt
          · exact hk a ha
        · rename_i h1 h2
          have : key = k' := eq_of_not_lt h1 h2
          subst this
          exact h

/-- The placed key reads back its new value. -/
theorem lookup_insertEntry_self (key : String) (value : β) (entries : List (String × β)) :
    (insertEntry key value entries).lookup key = some value := by
  induction entries with
  | nil => simp [insertEntry]
  | cons e rest ih =>
      obtain ⟨k', v'⟩ := e
      simp only [insertEntry]
      split
      · simp
      · split
        · rename_i hlt
          have hne : (key == k') = false := by
            rw [beq_eq_false_iff_ne]
            rintro rfl
            exact String.lt_irrefl _ hlt
          rw [List.lookup_cons, hne]
          exact ih
        · simp

/-- Every other key keeps its value. -/
theorem lookup_insertEntry_of_ne {key k : String} (hne : k ≠ key) (value : β)
    (entries : List (String × β)) :
    (insertEntry key value entries).lookup k = entries.lookup k := by
  have hbeq : (k == key) = false := beq_eq_false_iff_ne.2 hne
  induction entries with
  | nil => simp [insertEntry, List.lookup_cons, hbeq]
  | cons e rest ih =>
      obtain ⟨k', v'⟩ := e
      simp only [insertEntry]
      split
      · rw [List.lookup_cons, hbeq]
      · split
        · simp only [List.lookup_cons, ih]
        · rename_i h1 h2
          have : key = k' := eq_of_not_lt h1 h2
          subst this
          simp only [List.lookup_cons, hbeq]

end KeyMap

/-- A finite map from texts, listed in strictly increasing key order. -/
structure KeyMap (β : Type) where
  entries : List (String × β)
  increasing : (KeyMap.keysOf entries).Pairwise (· < ·)

namespace KeyMap

/-- The map without entries. -/
def empty : KeyMap β :=
  ⟨[], List.Pairwise.nil⟩

instance : Inhabited (KeyMap β) := ⟨empty⟩

/-- Puts `value` under `key`, in place of what the key held before. -/
def insert (m : KeyMap β) (key : String) (value : β) : KeyMap β :=
  ⟨insertEntry key value m.entries, insertEntry_increasing key value m.increasing⟩

/-- The map of a list of entries; of two entries with one key the later one
counts. -/
def ofList (entries : List (String × β)) : KeyMap β :=
  entries.foldl (fun m e => m.insert e.1 e.2) empty

/-- The value under `key`. -/
def get? (m : KeyMap β) (key : String) : Option β :=
  m.entries.lookup key

/-- All keys, in increasing order. -/
def keys (m : KeyMap β) : List String :=
  keysOf m.entries

/-- All values, in the order of their keys. -/
def values (m : KeyMap β) : List β :=
  m.entries.map Prod.snd

/-- How many entries the map has. -/
def size (m : KeyMap β) : Nat :=
  m.entries.length

/-- Whether the map has no entries. -/
def isEmpty (m : KeyMap β) : Bool :=
  m.entries.isEmpty

@[simp] theorem get?_insert_self (m : KeyMap β) (key : String) (value : β) :
    (m.insert key value).get? key = some value :=
  lookup_insertEntry_self key value m.entries

theorem get?_insert_of_ne (m : KeyMap β) {key k : String} (hne : k ≠ key) (value : β) :
    (m.insert key value).get? k = m.get? k :=
  lookup_insertEntry_of_ne hne value m.entries

end KeyMap

end CallTree
