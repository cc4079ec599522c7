/-
# The function of templates

`range` makes whole numbers one after the other, from zero or a start up or down to a bound
that is not reached. It is the only function that templates can call.
-/

import Rulebook.Template.Argument

namespace Rulebook
namespace Template
namespace Function

/-- The greatest length of a range. -/
def maxRange : Nat := 100000

/-- Whole numbers from a start up or down to a bound, which is not reached. -/
def countUp (first : Int) (second : Option Int) (step : Int) : Except Failure Value :=
  let (start, stop) := match second with
    | some stop => (first, stop)
    | none => (0, first)
  if step = 0 then .error .invalidOperation
  else
    let distance := if 0 < step then stop - start else start - stop
    let count := ((distance + step.natAbs - 1) / step.natAbs).toNat
    if maxRange < count then .error .invalidOperation
    else .ok (.inRow ((List.range count).map fun (i : Nat) => .int (.ofInt (start + step * i))))

/-- Calls a function. -/
def call (f : Function) (args : List Value) : Except Failure Value :=
  match f with
  | range => do
    let (first, second, step) ← Taking.all
      (do
        let first ← Taking.needed (Value.asInt 64)
        let second ← Taking.optional (Value.asInt 64)
        let step ← Taking.optional (Value.asInt 64)
        return (first, second, step)) args
    countUp first second (step.getD 1)

end Function

/-- Calls a value. -/
def Value.call (v : Value) (args : List Value) : Except Failure Value :=
  match v with
  | .function f => f.call args
  | _ => .error .invalidOperation

end Template
end Rulebook
