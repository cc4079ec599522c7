/-
# Parts of values

The characters of a text, the items of a list or a series and the keys of a map: going
through them, taking one by its place, its name or its key, and taking a slice of them.
-/

import Rulebook.Template.Comparison
import Rulebook.Text.Split
import Rulebook.Text.Digit

namespace Rulebook
namespace Template
namespace Value

/-- A character as a value. -/
def ofChar (c : Char) : Value := .text (String.ofList [c])

/-- The items of a list or a series, or the keys of a map. -/
def members? (v : Value) : Option (List Value) :=
  match v.items? with
  | some items => some items
  | Option.none => v.entries?.map fun entries => entries.map (·.1)

/-- The number of items of a list or a series, or of the keys of a map. -/
def memberCount? (v : Value) : Option Nat :=
  match v.row? with
  | some (_, arrangement) => some arrangement.length
  | Option.none => v.entries?.map List.length

/-- The number of parts of a value that has a number of them. -/
def length? : Value → Option Nat
  | text s => some s.length
  | v => v.memberCount?

/-- The part of a value at a place. -/
def part? (v : Value) (i : Nat) : Option Value :=
  match v with
  | text s => (s.startPos.nextn i).get?.map ofChar
  | v =>
    match v.row? with
    | some (pool, arrangement) => arrangement.get? pool i
    | Option.none => v.entries?.bind fun entries => (entries[i]?).map (·.1)

/-- A value has parts, possibly none, like what is not there and `none`. -/
def isIterable : Value → Bool
  | undefined _ => true
  | none => true
  | v => v.length?.isSome

/-- The parts of a value; what is not there and `none` have no parts. -/
def parts? : Value → Option (List Value)
  | undefined _ => some []
  | none => some []
  | text s => some (s.toList.map ofChar)
  | v => v.members?

/-- The parts of a value that is used as a list. -/
def iterate (v : Value) : Except Failure (List Value) :=
  match v.present with
  | .error e => .error e
  | .ok v =>
    match v.parts? with
    | some parts => .ok parts
    | Option.none => .error .invalidOperation

/-- A part that may be missing; of a value that is not there no part can be taken. -/
def orMissing (v : Value) (part : Option Value) : Except Failure Value :=
  match part with
  | some p => .ok p
  | Option.none => if v.isUndefined then .error .undefinedValue else .ok missing

/-- The part of a map under a name. -/
def attr? (v : Value) (name : String) : Option Value := v.entries?.bind (find? (.text name))

/-- The place that a number means in a list; negative numbers count from the end. -/
def place? (length : Nat) (i : Int) : Option Nat :=
  if 0 ≤ i then some i.toNat
  else if i.natAbs ≤ length then some (length - i.natAbs)
  else Option.none

/-- The part of a value under a key. -/
def item? (v key : Value) : Option Value :=
  match v.entries? with
  | some entries => find? key entries
  | Option.none =>
    v.length?.bind fun length => (key.toIndex?.bind (place? length)).bind v.part?

/-- The place that a part of a dotted path means: digits, possibly behind a plus sign. -/
def pathPlace? (part : List Char) : Option Nat :=
  let digits := match part with
    | '+' :: rest => rest
    | _ => part
  if digits ≠ [] && digits.all Text.isDigit && Text.numberOf digits < Nat.pow 2 64 then
    some (Text.numberOf digits)
  else Option.none

/-- The part of a value at the end of a dotted path; a number in it is a place. -/
def path? (v : Value) (path : String) : Option Value :=
  (Text.splitAt '.' path.toList).foldl
    (fun v part => v.bind fun v =>
      if v.isUndefined then Option.none
      else
        match pathPlace? part with
        | some i => some ((v.item? (.ofNat i)).getD missing)
        | Option.none => some ((v.attr? (String.ofList part)).getD missing))
    (some v)

/-! ### Slices -/

/-- A bound that may be left out. -/
def bound? (v : Value) : Except Failure (Option Int) :=
  match v with
  | none => .ok Option.none
  | v =>
    match v.toIndex? with
    | some i => .ok (some i)
    | Option.none => .error .invalidOperation

/-- The part of a text, a list or a series between two bounds. -/
def slice (v start stop step : Value) : Except Failure Value := do
  if v.isUndefined then throw .undefinedValue
  let start ← start.bound?
  let stop ← stop.bound?
  let step := (← step.bound?).getD 1
  if step = 0 then throw .invalidOperation
  match v with
  | text s =>
    let cs := s.toList
    return .text (String.ofList (((Arrangement.all cs.length).slice start stop step).items cs))
  | none => return .ofItems []
  | v =>
    match v.row? with
    | some (pool, arrangement) =>
      return .series Option.none pool (arrangement.slice start stop step)
    | Option.none => throw .invalidOperation

end Value
end Template
end Rulebook
