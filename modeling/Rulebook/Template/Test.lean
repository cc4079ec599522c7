/-
# Tests

Tests tell something about a value. A test without parameters takes no argument; one that
compares takes one. The letter tests ask every character of a text for the property, so
that the empty text passes and a text with a space or a digit does not.
-/

import Rulebook.Template.Argument
import Rulebook.Text.Letter

namespace Rulebook
namespace Template

/-- A test of a value with arguments. -/
abbrev Test := Value → List Value → Except Failure Bool

namespace Test

/-- A test without arguments. -/
def plain (p : Value → Bool) : Test := fun v args => do
  let _ ← Taking.all (pure ()) args
  return p v

/-- A test with one argument. -/
def against (p : Value → Value → Except Failure Bool) : Test := fun v args => do
  p v (← Taking.all (.needed Value.asItIs) args)

/-- A test of the order of a value and an argument. -/
def ordered (p : Ordering → Bool) : Test := against fun v w => .ok (p (v.compare w))

/-- A test of two texts. -/
def onTexts (p : List Char → List Char → Bool) : Test := fun v args => do
  let s ← v.asText
  let t ← Taking.all (.needed Value.asText) args
  return p s.toList t.toList

/-- Every character of a text has a property. -/
def everyLetter (p : Char → Bool) : Test := fun v args => do
  let s ← v.exactText
  let _ ← Taking.all (pure ()) args
  return s.toList.all p

/-- A whole number divides a number. -/
def divides (v w : Value) : Bool :=
  match Value.operands? true v w with
  | some (.ints m n) => n != 0 && m % n == 0
  | some (.reals x y) => (x.binary Real.remainder y).toFloat == 0
  | _ => false

/-- The value occurs in another one, which may be of any kind but has to be there. -/
def occurs (v container : Value) : Except Failure Bool := do
  match v.isIn (← container.present) with
  | .ok found => return found
  | .error _ => return false

/-- The test of a name. -/
def ofName? : String → Option Test
  | "defined" => some (plain fun v => !v.isUndefined)
  | "undefined" => some (plain Value.isUndefined)
  | "none" => some (plain fun | .none => true | _ => false)
  | "true" => some (plain fun | .bool b => b | _ => false)
  | "false" => some (plain fun | .bool b => !b | _ => false)
  | "boolean" => some (plain fun | .bool _ => true | _ => false)
  | "integer" => some (plain fun | .int _ => true | _ => false)
  | "float" => some (plain fun | .real _ => true | _ => false)
  | "number" => some (plain fun | .int _ | .real _ => true | _ => false)
  | "string" => some (plain fun | .text _ => true | _ => false)
  | "sequence" => some (plain fun | .list _ _ => true | _ => false)
  | "mapping" => some (plain fun v => v.entries?.isSome)
  | "iterable" => some (plain Value.isIterable)
  | "odd" => some (plain fun v => v.toInt?.any fun n => n % 2 != 0)
  | "even" => some (plain fun v => v.toInt?.any fun n => n % 2 == 0)
  | "divisibleby" => some (against fun v w => .ok (divides v w))
  | "in" => some (against occurs)
  | "eq" | "equalto" | "==" => some (against fun v w => .ok (v.same w))
  | "ne" | "!=" => some (against fun v w => .ok !(v.same w))
  | "lt" | "lessthan" | "<" => some (ordered (·.isLT))
  | "le" | "<=" => some (ordered (·.isLE))
  | "gt" | "greaterthan" | ">" => some (ordered (·.isGT))
  | "ge" | ">=" => some (ordered (·.isGE))
  | "startingwith" => some (onTexts fun s t => t.isPrefixOf s)
  | "endingwith" => some (onTexts fun s t => t.isSuffixOf s)
  | "upper" => some (everyLetter Text.uppercase.contains)
  | "lower" => some (everyLetter Text.lowercase.contains)
  | _ => none

end Test

end Template
end Rulebook
