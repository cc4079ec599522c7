/-
# The text of a binary64 number

The digits are the shortest that read back. A `Layout` decides how they are set: which
powers of ten are written out, and how an exponent looks. `plain` writes every number
out; `compact` switches to an exponent for very large and very small ones.
-/

import Rulebook.Decimal.Shortest

namespace Rulebook
namespace Decimal

/-- How a number is set. -/
structure Layout where
  /-- The least and the greatest power of ten of a leading digit that is written out. -/
  writtenOut : Option (Int × Int)
  /-- A plus sign stands before an exponent that is not negative. -/
  plusSign : Bool
  /-- An exponent has at least this many digits. -/
  exponentWidth : Nat
deriving DecidableEq, Repr

/-- Every number is written out in full. -/
def Layout.plain : Layout := ⟨none, false, 1⟩

/-- From `1e16` on and below `1e-4` an exponent is used, without a plus sign. -/
def Layout.compact : Layout := ⟨some (-4, 15), false, 1⟩

/-- From `1e+16` on and below `1e-05` an exponent is used, with its sign and two digits. -/
def Layout.interchange : Layout := ⟨some (-5, 15), true, 2⟩

/-- A number's decimal digits. -/
def digitsOf (n : Nat) : List Char := Nat.toDigits 10 n

/-- Digits with zeros in front up to a width. -/
def padDigits (width : Nat) (ds : List Char) : List Char :=
  List.replicate (width - ds.length) '0' ++ ds

/-- `digits · 10 ^ exponent` written out, with at least one digit after the point. -/
def writeOut (ds : List Char) (exponent : Int) : List Char :=
  if 0 ≤ exponent then
    ds ++ List.replicate exponent.toNat '0' ++ ['.', '0']
  else
    let places := (-exponent).toNat
    let ds := padDigits (places + 1) ds
    ds.take (ds.length - places) ++ ['.'] ++ ds.drop (ds.length - places)

/-- The exponent with its sign, after the letter. -/
def Layout.exponentText (f : Layout) (e : Int) : List Char :=
  'e' :: (if e < 0 then ['-'] else if f.plusSign then ['+'] else [])
    ++ padDigits f.exponentWidth (digitsOf e.natAbs)

/-- The text of a decimal that is not negative. -/
def Layout.magnitude (f : Layout) (s : Scientific) : List Char :=
  let ds := digitsOf s.digits
  let lead : Int := s.exponent + ds.length - 1
  match f.writtenOut with
  | none => writeOut ds s.exponent
  | some (lo, hi) =>
    if s.digits = 0 || (lo ≤ lead && lead ≤ hi) then writeOut ds s.exponent
    else
      match ds with
      | [] => []
      | [d] => d :: f.exponentText lead
      | d :: more => d :: '.' :: more ++ f.exponentText lead

/-- The text of a number. -/
def Layout.text (f : Layout) (x : Binary64) : String :=
  String.ofList ((if x.isNegative then ['-'] else []) ++ f.magnitude (shortest x))

end Decimal
end Rulebook
