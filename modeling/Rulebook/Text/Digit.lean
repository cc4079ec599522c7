/-
# Decimal digits

The ten ASCII digits and the number that a row of them spells.
-/

namespace Rulebook
namespace Text

/-- A decimal digit. -/
def isDigit (c : Char) : Bool := '0' ≤ c && c ≤ '9'

/-- The value of a decimal digit. -/
def digitValue (c : Char) : Nat := c.toNat - '0'.toNat

/-- The number that a row of digits spells, the empty row zero. -/
def numberOf (ds : List Char) : Nat := ds.foldl (fun n d => n * 10 + digitValue d) 0

end Text
end Rulebook
