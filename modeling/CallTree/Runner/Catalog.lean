import CallTree.Json.Shape
import CallTree.Text.Case

/-!
# The tests that a runner knows

A catalog lists the tests of every source by the full name of the source.
People see a source under its label, the part of its name after the last `/`,
and may use either.

* `Catalog.sources` — the sources in the order of their labels;
* `Catalog.testsFor` — the tests of a source in order;
* `Catalog.resolve` — one test, by the name of its source and its own.
-/

namespace CallTree.Runner

/-- One test of one source. -/
structure TestRef where
  src : String
  test : String
deriving DecidableEq, Inhabited

/-- How a request names a test. -/
def TestRef.selector (ref : TestRef) : Json :=
  .obj [(ref.src, .arr [.str ref.test])]

/-- The part of a source name after its last `/`. -/
def labelOf (full : String) : String :=
  String.ofList (full.toList.reverse.takeWhile (· != '/')).reverse

/-- A source of tests. -/
structure Source where
  label : String
  full : String
deriving DecidableEq, Inhabited

/-- The tests of every source, in the order in which the runner lists them. -/
structure Catalog where
  tests : KeyMap (List String)
deriving Inhabited

/-- A test that a catalog does not have. -/
inductive CatalogError where
  | unknownSource (src : String)
  | unknownTest (src test : String)
deriving DecidableEq

/-- The message of a test that a catalog does not have. -/
def CatalogError.message : CatalogError → String
  | .unknownSource src => "Unknown test source " ++ src
  | .unknownTest src test => "Unknown test " ++ test ++ " in " ++ src

/-- Whether a name comes before another one or beside it, whatever the case of
their letters. -/
def caselessLe (a b : String) : Bool :=
  Text.upper a ≤ Text.upper b

namespace Catalog

/-- The catalog that a JSON value writes. -/
def ofJson (j : Json) : Except ShapeError Catalog := do
  let fields ← j.asFields
  let lists ← fields.mapM fun field => do pure (field.1, ← field.2.asTexts)
  pure ⟨KeyMap.ofList lists⟩

/-- Whether no source has a test. -/
def isEmpty (c : Catalog) : Bool :=
  c.tests.values.all List.isEmpty

/-- The sources, by their labels. -/
def sources (c : Catalog) : List Source :=
  (c.tests.keys.map fun full => ⟨labelOf full, full⟩).mergeSort
    fun a b => caselessLe a.label b.label

/-- The full name of the source that goes by a name. -/
def find? (c : Catalog) (src : String) : Option String :=
  match c.tests.get? src with
  | some _ => some src
  | none => c.tests.keys.find? fun full => labelOf full == src

/-- The tests of the source with the given full name, as the runner lists
them. -/
def listed (c : Catalog) (full : String) : List String :=
  (c.tests.get? full).getD []

/-- The tests of a source, by name; of neighbours that are equal one stays. -/
def testsFor (c : Catalog) (src : String) : List String :=
  match c.find? src with
  | some full => ((c.listed full).mergeSort caselessLe).eraseReps
  | none => []

/-- The test of the given name, where its source has it. -/
def resolve (c : Catalog) (src test : String) : Except CatalogError TestRef :=
  match c.find? src with
  | some full =>
      if test ∈ c.listed full then .ok ⟨full, test⟩ else .error (.unknownTest full test)
  | none => .error (.unknownSource src)

end Catalog

end CallTree.Runner
