import Brokerage.Number.Binary64

/-! # The shortest decimal of a double

Of all decimals that round to a double, the shortest has the coarsest grid: the largest `k` for
which a multiple of `10 ^ k` rounds to it. If any multiple does, one of the two neighbours of the
exact value does. Of two the nearer is taken, and of two equally near ones the even one.
-/

namespace Brokerage

/-- The number `digits * 10 ^ exponent`. -/
structure Decimal where
  digits : Nat
  exponent : Int
  deriving DecidableEq, Repr, Inhabited

namespace Binary64

/-- The ends of the reals that round to a positive double, in quarters of a unit. -/
def roundingEnds (x : Binary64) : Nat × Nat :=
  let low := if x.mantissa = 2 ^ 52 && x.shift != 0 then 4 * x.mantissa - 1 else 4 * x.mantissa - 2
  (low * 2 ^ x.shift, (4 * x.mantissa + 2) * 2 ^ x.shift)

/-- Whether `grid * count` quarters of a unit, with quarters counted in parts of `1 / part`, round
to the double; the ends belong to the interval of an even mantissa. -/
def rounds (x : Binary64) (part point : Nat) : Bool :=
  let (low, high) := x.roundingEnds
  if x.mantissa % 2 = 0 then low * part ≤ point && point ≤ high * part
  else low * part < point && point < high * part

/-- The multiple of `10 ^ k` nearest to a positive double, if it rounds to the double. -/
def onGrid? (x : Binary64) (k : Int) : Option Nat :=
  let part := 10 ^ (-k).toNat
  let grid := 4 * one * 10 ^ k.toNat
  let exact := 4 * x.units * part
  let below := exact / grid
  let rest := exact % grid
  let lowFits := x.rounds part (below * grid)
  let highFits := x.rounds part ((below + 1) * grid)
  if lowFits && highFits then
    some (if 2 * rest < grid then below
      else if 2 * rest > grid then below + 1
      else if below % 2 = 0 then below else below + 1)
  else if lowFits then some below
  else if highFits then some (below + 1)
  else none

/-- The coarsest grid that has a point for the double, searched downward. -/
def searchGrid (x : Binary64) : Nat → Int → Decimal
  | 0, k => ⟨(x.onGrid? k).getD 0, k⟩
  | steps + 1, k =>
    match x.onGrid? k with
    | some digits => ⟨digits, k⟩
    | none => searchGrid x steps (k - 1)

/-- A grid exponent with `10 ^ k` above a positive double, and above it by at most a few places. -/
def topExponent (x : Binary64) : Int :=
  ((x.units.log2 : Int) - 1074) * 30103 / 100000 + 2

/-- The shortest decimal that rounds to a double; zero is `0 * 10 ^ 0`. -/
def shortest (x : Binary64) : Decimal :=
  if x.isZero then ⟨0, 0⟩ else searchGrid x 25 x.topExponent

end Binary64
end Brokerage
