import CallTree.Text.Segments

/-!
# File paths

A path is a text cut at `/`.  Empty pieces and pieces `.` name nothing, except
for a `.` at the very beginning, which stands for the working directory.
-/

namespace CallTree.Path

/-- The pieces of a path. -/
def pieces (path : String) : List String :=
  (Text.segments '/' path.toList).map String.ofList

/-- Whether a path begins at the root of the file system. -/
def isAbsolute (path : String) : Bool :=
  path.toList.head? == some '/'

/-- The beginning of a listed path that is left when the pieces at its end that
name nothing are dropped; the path is listed from its end. -/
def dropIdle : List String → List String
  | [] => []
  | [piece] => [piece]
  | piece :: rest => if piece = "" || piece = "." then dropIdle rest else piece :: rest

/-- A path that is listed from its end, as a text. -/
def ofReversed (pieces : List String) : String :=
  match pieces with
  | [""] => "/"
  | pieces => "/".intercalate pieces.reverse

/-- Dropping pieces makes no list longer. -/
theorem length_dropIdle_le (pieces : List String) : (dropIdle pieces).length ≤ pieces.length := by
  fun_induction dropIdle pieces with
  | case1 => exact Nat.le_refl _
  | case2 => exact Nat.le_refl _
  | case3 _ _ _ _ ih => exact Nat.le_succ_of_le ih
  | case4 => exact Nat.le_refl _

/-- A path that is listed from its end, and the directories around it from the
inside out, without the working directory and the root. -/
def nestReversed (listed : List String) : List String :=
  match h : dropIdle listed with
  | [] => []
  | [""] => []
  | piece :: rest =>
      have : rest.length < listed.length := by
        have := length_dropIdle_le listed
        simp only [h, List.length_cons] at this
        omega
      ofReversed (piece :: rest) :: nestReversed rest
termination_by listed.length

/-- A path and the directories around it, from the inside out, without the
working directory and the root. -/
def nest (path : String) : List String :=
  nestReversed (pieces path).reverse

/-- The directory that a path is in; empty for the working directory, and none
for a path that is not in any. -/
def parent? (path : String) : Option String :=
  match dropIdle (pieces path).reverse with
  | [] => none
  | [""] => none
  | [_] => some ""
  | _ :: rest => some (ofReversed (dropIdle rest))

/-- The path without the pieces that name nothing. -/
def tidy (path : String) : String :=
  "/".intercalate ((pieces path).filter fun piece => piece != "" && piece != ".")

/-- The path up to its last name, without what follows that names nothing; none
for a path that does not end in a name. -/
def named? (path : String) : Option String :=
  match dropIdle (pieces path).reverse with
  | [] => none
  | name :: rest =>
      if ["", ".", ".."].contains name then none else some ("/".intercalate (name :: rest).reverse)

/-- The part of a file name after its last dot, where the name does not begin
with that dot. -/
def extension? (path : String) : Option String :=
  match dropIdle (pieces path).reverse with
  | name :: _ =>
      if name = ".." then none
      else
        match Text.splitLast '.' name.toList with
        | some (stem, extension) =>
            if stem.isEmpty then none else some (String.ofList extension)
        | none => none
  | [] => none

end CallTree.Path
