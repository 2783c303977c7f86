/-!
# Cutting texts at a separator

`segments` cuts a text at every occurrence of one character, `join` puts
pieces together with a text between them, and `stripStart` takes a given
beginning off a text.
-/

namespace CallTree.Text

/-- The pieces of a text between the occurrences of `sep`; there is always at
least one piece. -/
def segments (sep : Char) : List Char → List (List Char)
  | [] => [[]]
  | c :: rest =>
      if c = sep then [] :: segments sep rest
      else
        match segments sep rest with
        | [] => [[c]]
        | piece :: pieces => (c :: piece) :: pieces

/-- A text is never cut into no piece at all. -/
theorem segments_ne_nil (sep : Char) (s : List Char) : segments sep s ≠ [] := by
  induction s with
  | nil => simp [segments]
  | cons c rest ih =>
      simp only [segments]
      split
      · simp
      · split <;> simp

/-- Pieces put together with `sep` between neighbours. -/
def join (sep : List Char) : List (List Char) → List Char
  | [] => []
  | [piece] => piece
  | piece :: pieces => piece ++ sep ++ join sep pieces

/-- The rest of a text that begins with `start`. -/
def stripStart : (start s : List Char) → Option (List Char)
  | [], s => some s
  | _ :: _, [] => none
  | a :: start, c :: s => if a = c then stripStart start s else none

/-- The text cut at the first occurrence of `sep`, which is left out. -/
def splitFirst (sep : Char) : List Char → Option (List Char × List Char)
  | [] => none
  | c :: rest =>
      if c = sep then some ([], rest)
      else (splitFirst sep rest).map fun (before, after) => (c :: before, after)

/-- The text cut at the last occurrence of `sep`, which is left out. -/
def splitLast (sep : Char) (s : List Char) : Option (List Char × List Char) :=
  (splitFirst sep s.reverse).map fun (after, before) => (before.reverse, after.reverse)

/-- Whether `part` stands somewhere in the text. -/
def contains (part : List Char) : List Char → Bool
  | [] => part.isEmpty
  | c :: rest => part.isPrefixOf (c :: rest) || contains part rest

theorem stripStart_append (start s : List Char) : stripStart start (start ++ s) = some s := by
  induction start with
  | nil => rfl
  | cons a start ih => simp [stripStart, ih]

theorem eq_append_of_stripStart {start s rest : List Char}
    (h : stripStart start s = some rest) : s = start ++ rest := by
  induction start generalizing s with
  | nil => simpa [stripStart] using h
  | cons a start ih =>
      cases s with
      | nil => simp [stripStart] at h
      | cons c s =>
          simp only [stripStart] at h
          split at h
          · rename_i hac
            rw [ih h, hac, List.cons_append]
          · simp at h

end CallTree.Text
