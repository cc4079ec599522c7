/-
# Shortest decimal digits

A positive number `m · 2 ^ q` of a binary format stands for all reals that round to it.
They form an interval: half a unit of the last place to each side, a quarter below a
power of two, the ends included iff `m` is even. `shortest` looks for the coarsest grid
of powers of ten with a point in this interval and gives the grid point nearest to the
number, so no decimal with fewer digits reads back as the same number.

All comparisons are exact, in natural numbers scaled by a common denominator.
-/

import Rulebook.Binary64

namespace Rulebook
namespace Decimal

/-- The decimal number `digits · 10 ^ exponent`. -/
structure Scientific where
  digits : Nat
  exponent : Int
deriving DecidableEq, Repr

/-- The interval of reals that round to a number, as multiples of `1 / unit`. -/
structure Interval where
  low : Nat
  value : Nat
  high : Nat
  unit : Nat
  /-- The ends belong to the interval. -/
  closed : Bool

/-- The rounding interval of `m · 2 ^ q`, where `narrow` says that the numbers below are
twice as dense. -/
def Interval.of (m : Nat) (q : Int) (narrow : Bool) : Interval :=
  let scale := Nat.pow 2 (q - 2).toNat
  { low := (4 * m - (if narrow then 1 else 2)) * scale
    value := 4 * m * scale
    high := (4 * m + 2) * scale
    unit := Nat.pow 2 (2 - q).toNat
    closed := m % 2 == 0 }

/-- The interval with the unit of its numbers changed to `10 ^ g`. -/
def Interval.onGrid (i : Interval) (g : Int) : Interval :=
  let up := Nat.pow 10 (-g).toNat
  { low := i.low * up
    value := i.value * up
    high := i.high * up
    unit := i.unit * Nat.pow 10 g.toNat
    closed := i.closed }

/-- The grid point `n` lies in the interval. -/
def Interval.holds (i : Interval) (n : Nat) : Bool :=
  let p := n * i.unit
  if i.closed then i.low ≤ p && p ≤ i.high else i.low < p && p < i.high

/-- The grid point in the interval that is nearest to its value, an even one of two. -/
def Interval.nearest? (i : Interval) : Option Nat :=
  let below := i.value / i.unit
  let twice := 2 * (i.value % i.unit)
  match i.holds below, i.holds (below + 1) with
  | true, true =>
    if twice < i.unit then some below
    else if i.unit < twice then some (below + 1)
    else some (below + below % 2)
  | true, false => some below
  | false, true => some (below + 1)
  | false, false => none

/-- The nearest point of the first grid, from `10 ^ g` downwards, that has one in the
interval. -/
def search (i : Interval) (g : Int) : Nat → Scientific
  | 0 => ⟨(i.onGrid g).value / (i.onGrid g).unit, g⟩
  | fuel + 1 =>
    match (i.onGrid g).nearest? with
    | some n => ⟨n, g⟩
    | none => search i (g - 1) fuel

/-- A decimal without trailing zeros in its digits, unless it is zero. -/
def Scientific.strip (s : Scientific) : Nat → Scientific
  | 0 => s
  | fuel + 1 =>
    if s.digits ≠ 0 ∧ s.digits % 10 = 0 then
      Scientific.strip ⟨s.digits / 10, s.exponent + 1⟩ fuel
    else s

/-- The shortest decimal that reads back as `x`, its sign aside. -/
def shortest (x : Binary64) : Scientific :=
  if x.significand = 0 then ⟨0, 0⟩
  else
    let narrow := x.fraction == 0 && (-1074 : Int) < x.exponent
    let i := Interval.of x.significand x.exponent narrow
    let magnitude : Int := (Nat.log2 i.value : Int) - (Nat.log2 i.unit : Int) + 1
    (search i (magnitude * 30103 / 100000 + 1) 24).strip 24

end Decimal
end Rulebook
