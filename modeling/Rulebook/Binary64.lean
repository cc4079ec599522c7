/-
# Finite binary64 numbers

A number of the IEEE 754 format binary64 that is neither an infinity nor a NaN, kept as
its 64 bits. Equality of bits tells the two zeros apart; `same` is numeric equality and
does not. `significand` and `exponent` give the exact value `± significand · 2 ^ exponent`.
-/

namespace Rulebook

/-- The biased exponent field of 64 bits. -/
def exponentField (bits : UInt64) : UInt64 := (bits >>> 52) &&& 0x7FF

/-- A finite binary64 number. -/
structure Binary64 where
  bits : UInt64
  finite : exponentField bits ≠ 0x7FF := by decide
deriving DecidableEq, Repr

namespace Binary64

/-- Positive zero. -/
def zero : Binary64 := { bits := 0 }

/-- Negative zero. -/
def negZero : Binary64 := { bits := 0x8000000000000000 }

instance : Inhabited Binary64 := ⟨zero⟩

/-- The number as the machine computes with it. -/
def toFloat (x : Binary64) : Float := Float.ofBits x.bits

/-- A computed number, unless it is an infinity or a NaN. -/
def ofFloat? (f : Float) : Option Binary64 :=
  let bits := f.toBits
  if h : exponentField bits ≠ 0x7FF then some ⟨bits, h⟩ else none

/-- A computed number; an infinity or a NaN becomes zero. -/
def ofFloat (f : Float) : Binary64 := (ofFloat? f).getD zero

/-- The sign bit. -/
def isNegative (x : Binary64) : Bool := x.bits >>> 63 == 1

/-- The stored fraction. -/
def fraction (x : Binary64) : Nat := x.bits.toNat % Nat.pow 2 52

/-- The significand as a natural number. -/
def significand (x : Binary64) : Nat :=
  if exponentField x.bits = 0 then x.fraction else x.fraction + Nat.pow 2 52

/-- The exponent that belongs to `significand`. -/
def exponent (x : Binary64) : Int :=
  if exponentField x.bits = 0 then -1074 else ((exponentField x.bits).toNat : Int) - 1075

/-- One of the two zeros. -/
def isZero (x : Binary64) : Bool := x.bits &&& 0x7FFFFFFFFFFFFFFF == 0

/-- Numeric equality: the two zeros are equal, and otherwise equal bits are meant. -/
def same (x y : Binary64) : Bool := x.bits == y.bits || (x.isZero && y.isZero)

/-- The exact value of a number without a fractional part. -/
def toInt? (x : Binary64) : Option Int :=
  let magnitude : Option Nat :=
    if 0 ≤ x.exponent then some (x.significand * Nat.pow 2 x.exponent.toNat)
    else
      let unit := Nat.pow 2 (-x.exponent).toNat
      if x.significand % unit = 0 then some (x.significand / unit) else none
  magnitude.map fun n => if x.isNegative then -(n : Int) else n

end Binary64

end Rulebook
