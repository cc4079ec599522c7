/-
# Reals of templates

A real is a binary64 number, or something that is no number (`nan`). The latter has a sign
as well, which nothing shows but the order, where it stands behind all numbers or, with a
minus sign, in front of them.

The sign of what is no number comes from the operand that was none already, the first one of
two; if both operands were numbers, it is a minus sign (`Real.computed`).
-/

import Rulebook.Template.Integer
import Rulebook.Decimal.Layout
import Rulebook.Decimal.Reading

namespace Rulebook
namespace Template

/-- A real. -/
inductive Real where
  | number (x : Float)
  | nan (negative : Bool)

namespace Real

/-- The real as the machine computes with it. -/
def toFloat : Real → Float
  | number x => x
  | nan _ => 0.0 / 0.0

/-- What has been computed from two operands. -/
def computed (a b : Real) (x : Float) : Real :=
  if x.isNaN then
    match a, b with
    | nan negative, _ => nan negative
    | _, nan negative => nan negative
    | _, _ => nan true
  else number x

/-- An operation on two reals. -/
def binary (f : Float → Float → Float) (a b : Real) : Real :=
  computed a b (f a.toFloat b.toFloat)

/-- An operation on one real. -/
def unary (f : Float → Float) (a : Real) : Real := computed a a (f a.toFloat)

/-- The real with the other sign. -/
def negate : Real → Real
  | number x => number (-x)
  | nan negative => nan !negative

/-- The real without its sign. -/
def abs : Real → Real
  | number x => number x.abs
  | nan _ => nan false

/-- Any real but zero. -/
def isTrue : Real → Bool
  | number x => x != 0
  | nan _ => true

/-- A real that is written, possibly as a word. -/
def read? (cs : List Char) : Option Real :=
  (Decimal.real? cs).map fun x => if x.isNaN then nan (cs.head? == some '-') else number x

/-- The text of a real in a layout for finite numbers. -/
def text (layout : Decimal.Layout) : Real → String
  | nan _ => "NaN"
  | number x =>
    match Binary64.ofFloat? x with
    | some b => layout.text b
    | none => if x < 0 then "-inf" else "inf"

/-! ### Order and equality -/

/-- A key by which reals are ordered: numbers by value, the two zeros alike. -/
def key : Real → Int
  | nan false => Nat.pow 2 64
  | nan true => -(Nat.pow 2 64 : Nat)
  | number x =>
    let bits := x.toBits.toNat
    if bits < Nat.pow 2 63 then bits else -((bits - Nat.pow 2 63 : Nat) : Int)

/-- The order of reals. -/
def compare (a b : Real) : Ordering := Ord.compare a.key b.key

/-- Equality of numbers; what is no number equals nothing. -/
def same : Real → Real → Bool
  | number x, number y => x == y
  | _, _ => false

/-- The order of an integer and a real by their exact values. -/
def compareInt (n : Int) : Real → Ordering
  | nan negative => if negative then .gt else .lt
  | number x =>
    match Binary64.ofFloat? x with
    | some b =>
      let m : Int := if b.isNegative then -(b.significand : Int) else b.significand
      if 0 ≤ b.exponent then Ord.compare n (m * Nat.pow 2 b.exponent.toNat)
      else Ord.compare (n * Nat.pow 2 (-b.exponent).toNat) m
    | none => if x < 0 then .gt else .lt

/-! ### Integers -/

/-- The integer that a real is, if one of 64 bits turns into the same real. -/
def whole? : Real → Option Int
  | nan _ => none
  | number x =>
    match (Binary64.ofFloat? x).bind Binary64.toInt? with
    | some n =>
      let n := SignedWidth.clamp 64 n
      if Float.ofInt n == x then some n else none
    | none => none

/-- A number without its fraction. -/
def truncate (x : Float) : Float := if x < 0 then x.ceil else x.floor

/-- The whole part of a real, as far as 128 bits go; what is no number has zero. -/
def wholePart : Real → Int
  | nan _ => 0
  | number x =>
    match (Binary64.ofFloat? (truncate x)).bind Binary64.toInt? with
    | some n => SignedWidth.clamp 128 n
    | none => if x < 0 then IntForm.signed128.least else IntForm.signed128.greatest

/-- The remainder of a division whose quotient is cut off. -/
def remainder (a b : Float) : Float :=
  match Binary64.ofFloat? a, Binary64.ofFloat? b with
  | some x, some y =>
    if y.isZero then 0.0 / 0.0
    else
      let e := min x.exponent y.exponent
      let m := x.significand * Nat.pow 2 (x.exponent - e).toNat
      let n := y.significand * Nat.pow 2 (y.exponent - e).toNat
      let r := (Float.ofNat (m % n)).scaleB e
      if x.isNegative then -r else r
  | some _, none => if b.isNaN then b else a
  | none, _ => 0.0 / 0.0

/-- The quotient, rounded down for a positive divisor and up for a negative one. -/
def quotient (a b : Float) : Float :=
  let q := truncate (a / b)
  if remainder a b < 0 then if 0 < b then q - 1 else q + 1 else q

/-- `done` times a number to a natural power, by squaring; each step rounds. -/
def powerBySquaring (done base : Float) (n : Nat) : Float :=
  let done := if n % 2 = 1 then done * base else done
  if h : n < 2 then done
  else powerBySquaring done (base * base) (n / 2)
termination_by n
decreasing_by omega

/-- A number rounded to so many decimal places, halves away from zero. -/
def roundTo (places : Int) (x : Float) : Float :=
  let power := powerBySquaring 1 10 places.natAbs
  let scale := if 0 ≤ places then power else 1 / power
  (scale * x).round / scale

end Real

end Template
end Rulebook
