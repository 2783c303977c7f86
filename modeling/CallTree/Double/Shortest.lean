import CallTree.Double.Basic

/-!
# The shortest decimal that reads back

The decimals that round to a double fill an interval around it, which
includes its ends exactly when the significand is even.  For one digit, two
digits and so on, `shortest` looks at the two neighbours of the double on the
decimal grid with that many digits; the first grid with a neighbour inside the
interval wins, and of two such neighbours the nearer one.  Which of two equally
near ones is taken is up to the written form.
-/

namespace CallTree.Double

/-- A positive decimal `0.d₁d₂… · 10 ^ point`: its digits, without zeros at
the end, and the place of the point. -/
structure Decimal where
  digits : List Char
  point : Int
deriving DecidableEq

/-- Which of two equally near decimals is taken. -/
inductive Tie where
  /-- The one whose last digit is even. -/
  | toEven
  /-- The one of larger magnitude. -/
  | away
deriving DecidableEq

/-- Whether the lower one of two equally near decimals is taken; `below` is its
place on the grid. -/
def Tie.takesBelow : Tie → (below : Nat) → Bool
  | .toEven, below => below % 2 == 0
  | .away, _ => false

/-- The decimal that writes zero. -/
def Decimal.zero : Decimal := ⟨['0'], 1⟩

/-- The decimal `c · 10 ^ e`. -/
def Decimal.ofNat (c : Nat) (e : Int) : Decimal :=
  let digits := Nat.toDigits 10 c
  let kept := (digits.reverse.dropWhile (· == '0')).reverse
  ⟨kept, digits.length + e⟩

/-- The interval of a finite double other than zero in quarters of its unit:
lower end, value, upper end.  Below a power of two the next double is only half
a unit away. -/
def quarters (d : Double) : Nat × Nat × Nat :=
  let m := d.significand
  let lower := if d.fractionBits = 0 && 1 < d.exponentBits then 4 * m - 1 else 4 * m - 2
  (lower, 4 * m, 4 * m + 2)

/-- The place of the point of the double's exact decimal. -/
def pointOf (d : Double) : Int :=
  let (num, den) := d.ratio
  ((Nat.toDigits 10 (num * Nat.pow 10 400 / den)).length : Int) - 400

/-- The better of the two neighbours of a double on the grid of multiples of
`10 ^ e`, if one lies inside the double's interval. -/
def onGrid (tie : Tie) (d : Double) (e : Int) : Option Nat :=
  let (lower, value, upper) := d.quarters
  let binary : Int := d.scale - 1076
  let gridUnit := Nat.pow 10 e.toNat * Nat.pow 2 (-binary).toNat
  let quarterUnit := Nat.pow 10 (-e).toNat * Nat.pow 2 binary.toNat
  let inside (c : Nat) : Bool :=
    let x := c * gridUnit
    if d.significand % 2 = 0 then lower * quarterUnit ≤ x && x ≤ upper * quarterUnit
    else lower * quarterUnit < x && x < upper * quarterUnit
  let exact := value * quarterUnit
  let below := exact / gridUnit
  let above := below + 1
  let nearer :=
    let down := exact - below * gridUnit
    let up := above * gridUnit - exact
    if down < up || (down == up && tie.takesBelow below) then below else above
  if inside below && inside above then some nearer
  else if inside below then some below
  else if inside above then some above
  else none

/-- The shortest decimal that reads back as the magnitude of a finite
double. -/
def shortest (tie : Tie) (d : Double) : Decimal :=
  if d.isZero then Decimal.zero
  else
    let point := d.pointOf
    let withDigits (n : Nat) : Option Decimal :=
      (d.onGrid tie (point - n)).map fun c => Decimal.ofNat c (point - n)
    ((List.range' 1 17).findSome? withDigits).getD Decimal.zero

end CallTree.Double
