import CallTree.Text.Digits
import CallTree.Text.Segments

/-!
# Tables of characters

A property of characters is written as lines of rows with blanks between
them.  A row holds the first and the last of a run of characters, the step
between them, and what stands beside them: `41-5A:61` says that the characters
from `41` to `5A` go with those from `61` on, `100-12E/2:101` that every second
one of a run goes with the character at the same distance from `101`, and
`BD:31+2044+32` that one character goes with three.  All numbers are
hexadecimal, and the rows of a table increase.

* `CodeRow.ofLines` — the rows that lines write;
* `CodeRow.find?` — the row of a character.
-/

namespace CallTree.Text

/-- A run of characters at equal steps, and what stands beside it. -/
structure CodeRow where
  first : Nat
  last : Nat
  step : Nat
  values : List Nat
deriving Inhabited

namespace CodeRow

/-- The number that hexadecimal digits write. -/
def number (digits : List Char) : Nat := (numberIn 16 digits).getD 0

/-- The run that a text writes. -/
def ofRun (s : List Char) : CodeRow :=
  let (ends, step) := (splitFirst '/' s).getD (s, ['1'])
  match splitFirst '-' ends with
  | some (first, last) => ⟨number first, number last, number step, []⟩
  | none => ⟨number ends, number ends, number step, []⟩

/-- The row that a text writes. -/
def ofRow (s : List Char) : CodeRow :=
  match splitFirst ':' s with
  | some (run, values) => { ofRun run with values := (segments '+' values).map number }
  | none => ofRun s

/-- The rows that lines write. -/
def ofLines (lines : List String) : Array CodeRow :=
  (lines.flatMap fun line => (segments ' ' line.toList).map ofRow).toArray

/-- The row of a number between two places of a table. -/
def search (rows : Array CodeRow) (n low high : Nat) : Option CodeRow :=
  if low < high then
    let middle := (low + high) / 2
    match rows[middle]? with
    | none => none
    | some row =>
        if n < row.first then search rows n low middle
        else if row.last < n then search rows n (middle + 1) high
        else if (n - row.first) % row.step = 0 then some row
        else none
  else none
termination_by high - low

/-- The row of a number. -/
def find? (rows : Array CodeRow) (n : Nat) : Option CodeRow :=
  search rows n 0 rows.size

/-- Whether a table has a row for a character. -/
def covers (rows : Array CodeRow) (c : Char) : Bool :=
  (find? rows c.toNat).isSome

/-- What goes with a number of the row: one value moves along with the number,
several do not. -/
def images (row : CodeRow) (n : Nat) : List Nat :=
  match row.values with
  | [value] => [value + (n - row.first)]
  | values => values

end CodeRow

end CallTree.Text
