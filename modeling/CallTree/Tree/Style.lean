import CallTree.Json.Shape

/-!
# Colours of a display tree

A style is an object, of which every part may be missing, or the list of its
parts in the order of `partNames`.
-/

namespace CallTree.Tree

/-- The colours of a display tree. -/
structure Style where
  success : String
  fail : String
  create : String
  defaultFill : String
  logStroke : String
deriving DecidableEq

namespace Style

/-- The colours where none are asked for. -/
def default : Style :=
  ⟨"#00FF00", "#FF0000", "#3c003b", "#050505", "#3c003b"⟩

instance : Inhabited Style := ⟨default⟩

/-- The parts of a style, in the order in which a list writes them. -/
def partNames : List String := ["success", "fail", "create", "default_fill", "log_stroke"]

/-- The style with one part set; other keys do not matter. -/
def setPart (style : Style) (key : String) (value : Json) : Except ShapeError Style := do
  if key = "success" then return { style with success := ← value.asText }
  else if key = "fail" then return { style with fail := ← value.asText }
  else if key = "create" then return { style with create := ← value.asText }
  else if key = "default_fill" then return { style with defaultFill := ← value.asText }
  else if key = "log_stroke" then return { style with logStroke := ← value.asText }
  else return style

/-- The style with several parts set. -/
def setParts (style : Style) (parts : List (String × Json)) : Except ShapeError Style :=
  parts.foldlM (fun style part => style.setPart part.1 part.2) style

/-- The style that a JSON value writes. -/
def ofJson : Json → Except ShapeError Style
  | .obj fields => default.setParts fields
  | .arr items => do
      let style ← default.setParts (partNames.zip items)
      if items.length ≤ partNames.length then return style
      else throw (.tooLong items.length)
  | other => .error (.mismatch other .style)

end Style

end CallTree.Tree
