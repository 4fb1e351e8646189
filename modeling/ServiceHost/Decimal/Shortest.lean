import ServiceHost.Decimal.Double

/-!
# Shortest decimals

The shortest decimal of a positive double is one of fewest digits among those that round to it,
and the nearest of these.  A decimal `digits · 10 ^ power` lies on the grid of spacing
`10 ^ power`; if any point of a grid rounds to the double, one of the two neighbours of the
double on that grid does.  So the grids are tried from coarse to fine, and the first one with
such a neighbour gives the answer.
-/

namespace ServiceHost

/-- The number `digits · 10 ^ power`. -/
structure Decimal where
  digits : Nat
  power : Int
  deriving DecidableEq, Repr

namespace Magnitude

/-- The reals that round to a double, in quarters of its last bit: the ends below and above, and
whether they belong to it. -/
structure Neighbourhood where
  /-- The end below. -/
  low : Nat
  /-- The double itself. -/
  mid : Nat
  /-- The end above. -/
  high : Nat
  /-- Whether the ends round to the double as well. -/
  closed : Bool

/-- The neighbourhood of a double.  Below a power of two the doubles lie twice as dense. -/
def neighbourhood (m : Magnitude) : Neighbourhood :=
  let mid := 4 * m.significand
  { low := if m.significand = leastFull ∧ leastExponent < m.exponent then mid - 1 else mid - 2
    mid
    high := mid + 2
    closed := m.significand % 2 == 0 }

/-- The point of the grid of `10 ^ power` that rounds to the double and is nearest to it. -/
def onGrid? (m : Magnitude) (power : Int) : Option Decimal :=
  let near := m.neighbourhood
  let (unitNum, unitDen) := scaled 1 2 (m.exponent - 2)
  let (stepNum, stepDen) := scaled 1 10 power
  let perUnit := unitNum * stepDen
  let perStep := stepNum * unitDen
  let fits (c : Nat) : Bool :=
    let at_ := c * perStep
    if near.closed then near.low * perUnit ≤ at_ && at_ ≤ near.high * perUnit
    else near.low * perUnit < at_ && at_ < near.high * perUnit
  let exact := near.mid * perUnit
  let below := exact / perStep
  let above := below + 1
  let down := exact - below * perStep
  let up := above * perStep - exact
  let pick (c : Nat) : Option Decimal := some ⟨c, power⟩
  if fits below && fits above then
    if down < up ∨ (down = up ∧ below % 2 = 0) then pick below else pick above
  else if fits below then pick below
  else if fits above then pick above
  else none

/-- The first hit on the grids from `power` downwards. -/
def firstOnGrids (m : Magnitude) : Nat → Int → Decimal
  | 0, power => ⟨0, power⟩
  | more + 1, power => (m.onGrid? power).getD (firstOnGrids m more (power - 1))

/-- An exponent of ten above the double. -/
def powerAbove (m : Magnitude) : Int :=
  (Nat.log2 m.significand + 1 + m.exponent) * 30103 / 100000 + 1

/-- The shortest decimal of a positive double. -/
def shortest (m : Magnitude) : Decimal :=
  m.firstOnGrids 24 m.powerAbove

end Magnitude

end ServiceHost
