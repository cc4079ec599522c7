/-
# Integers of templates

An integer is held in one of four fixed forms, with or without a sign and of 64 or 128
bits. The form is invisible until a limit is met:

* two unsigned integers of 128 bits are computed with as if they had a sign, so that the
  upper half of them wraps around (`Integer.pair?`);
* an integer counts as the same as a real if the real, cut to the bounds of the form, is
  the integer again (`Integer.toFloat?`), which the bounds themselves pass although the
  real is one more.
-/

import Rulebook.SignedWidth
import Rulebook.Binary64

namespace Rulebook
namespace Template

/-- The form in which an integer is held. -/
inductive IntForm where
  | unsigned64
  | signed64
  | unsigned128
  | signed128
deriving DecidableEq, Repr

namespace IntForm

/-- The least integer of a form. -/
def least : IntForm → Int
  | unsigned64 => 0
  | signed64 => -SignedWidth.half 64
  | unsigned128 => 0
  | signed128 => -SignedWidth.half 128

/-- The greatest integer of a form. -/
def greatest : IntForm → Int
  | unsigned64 => 2 * SignedWidth.half 64 - 1
  | signed64 => SignedWidth.half 64 - 1
  | unsigned128 => 2 * SignedWidth.half 128 - 1
  | signed128 => SignedWidth.half 128 - 1

/-- The integer of a form that is nearest to an integer. -/
def clamp (f : IntForm) (n : Int) : Int := max f.least (min f.greatest n)

end IntForm

/-- An integer with its form. -/
structure Integer where
  form : IntForm
  value : Int
deriving DecidableEq, Repr

namespace Integer

/-- A natural number that is written or given. -/
def ofNat (n : Nat) : Integer :=
  ⟨if (n : Int) ≤ IntForm.unsigned64.greatest then .unsigned64 else .unsigned128, n⟩

/-- An integer that has been computed. -/
def ofInt (n : Int) : Integer :=
  ⟨if SignedWidth.fits 64 n then .signed64 else .signed128, n⟩

/-- An integer that is given: only a negative one needs a sign. -/
def given (n : Int) : Integer := if n < 0 then ofInt n else ofNat n.toNat

/-- The integer, if 128 bits with a sign can hold it. -/
def signed? (i : Integer) : Option Int :=
  if SignedWidth.fits 128 i.value then some i.value else none

/-- The integer of 128 bits with a sign that has the same bits. -/
def wrapped (i : Integer) : Int := Int.bmod i.value (Nat.pow 2 128)

/-- Two integers made alike, if they can be computed with. -/
def pair? (a b : Integer) : Option (Int × Int) :=
  match a.form, b.form with
  | .unsigned128, .unsigned128 => some (a.wrapped, b.wrapped)
  | _, _ =>
    match a.signed?, b.signed? with
    | some m, some n => some (m, n)
    | _, _ => none

/-- The nearest real. -/
def toFloat (i : Integer) : Float := Float.ofInt i.value

/-- The nearest real, if cutting it to the bounds of the form gives the integer again. -/
def toFloat? (i : Integer) : Option Float :=
  let x := i.toFloat
  match (Binary64.ofFloat? x).bind Binary64.toInt? with
  | some n => if i.form.clamp n = i.value then some x else none
  | none => none

end Integer

end Template
end Rulebook
