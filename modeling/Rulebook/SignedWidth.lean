/-
# Integers of a fixed width

The integers with a sign that a number of bits can hold: half of them are negative, and
the least one has no counterpart.
-/

namespace Rulebook
namespace SignedWidth

/-- One more than the greatest integer of a width. -/
def half (bits : Nat) : Int := Nat.pow 2 (bits - 1)

/-- The integer fits a width. -/
def fits (bits : Nat) (n : Int) : Bool := -half bits ≤ n && n < half bits

/-- The integer of a width that is nearest to an integer. -/
def clamp (bits : Nat) (n : Int) : Int := max (-half bits) (min (half bits - 1) n)

end SignedWidth
end Rulebook
