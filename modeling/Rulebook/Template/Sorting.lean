/-
# Sorting and distinct values

Sorting is stable, in both directions: equal values keep their order. Values can be sorted
by parts of them, named by dotted paths with commas between. A single part, like a value
itself, is compared without regard to the case of ASCII letters unless asked otherwise;
several parts are compared as a list.

Values that lack the end of a single path compare as equal to all, so that the order need
not be transitive. `RunSort` fixes the result, or tells that there is none.
-/

import Rulebook.Template.Argument
import Rulebook.Template.RunSort
import Rulebook.Text.Blank
import Rulebook.Text.Case

namespace Rulebook
namespace Template
namespace Sorting

/-- The order in which values are sorted. -/
def order (caseSensitive : Bool) (a b : Value) : Ordering :=
  match a, b with
  | .text a, .text b =>
    if caseSensitive then Value.compareTexts a b
    else
      let fold (s : String) := String.ofList (s.toList.map Char.toLower)
      Value.compareTexts (fold a) (fold b)
  | a, b => a.compare b

/-- The paths in a list of them; empty ones do not count. -/
def paths (key : String) : List String :=
  ((Text.splitAt ',' key.toList).map fun cs => Text.trim (String.ofList cs)).filter (· ≠ "")

/-- The order of values by parts of them. Those that lack a single part are equal to all;
of several parts it takes its place as what is not there. -/
def orderBy (caseSensitive : Bool) (key : Option String) (a b : Value) : Ordering :=
  match key.map paths with
  | none => order caseSensitive a b
  | some [path] =>
    match a.path? path, b.path? path with
    | some a, some b => order caseSensitive a b
    | _, _ => .eq
  | some paths =>
    let parts (v : Value) : Value := .ofItems (paths.map fun p => (v.path? p).getD Value.missing)
    (parts a).compare (parts b)

/-- The named arguments of a filter. What is filtered is an argument itself: if it is named
arguments and there are no others, then it is missing. -/
def names (v : Value) (args : List Value) : Except Failure (List (Value × Value)) :=
  match v, args with
  | .named _ _, [] => .error .missingArgument
  | _, args => Taking.names.all args

/-- A named argument, if it is given. -/
def argument (name : String) (given : List (Value × Value)) : Option Value :=
  Value.find? (.text name) given

/-- The named arguments are among those of some names. -/
def onlyNamed (names : List String) (given : List (Value × Value)) : Except Failure Unit :=
  if given.all fun e => names.any fun n => (Value.text n).same e.1 then .ok ()
  else .error .tooManyArguments

/-- The parts of a value that is taken as a list. -/
def listed (v : Value) : Except Failure (List Value) :=
  match v.iterate with
  | .ok items => .ok items
  | .error _ => .error .invalidOperation

/-- The parts of a value in ascending or descending order. -/
def sort (v : Value) (args : List Value) : Except Failure Value := do
  let given ← names v args
  let parts ← listed v
  let flag (name : String) := Value.optional Value.asFlag (argument name given)
  let caseSensitive := (← flag "case_sensitive").getD false
  let key ← Value.optional Value.exactText (argument "attribute" given)
  let descending := (← flag "reverse").getD false
  onlyNamed ["case_sensitive", "attribute", "reverse"] given
  let before (a b : Value) : Bool :=
    if descending then (orderBy caseSensitive key b a).isLT
    else (orderBy caseSensitive key a b).isLT
  match RunSort.sort before parts with
  | some sorted => return .ofItems sorted
  | none => throw .invalidOperation

/-- Values without those whose key is that of the value in front of them. -/
def dropRepeated {α : Type} (key : α → Value) : List α → List α
  | a :: b :: rest =>
    if (key a).compare (key b) = .eq then dropRepeated key (a :: rest)
    else a :: dropRepeated key (b :: rest)
  | l => l
termination_by l => l.length

/-- Values without those whose key occurs before: they are sorted by their keys, of equal
ones the first stays, and what is left goes back to its place. -/
def distinct (key : Value → Value) (values : List Value) : List Value :=
  let numbered := values.zipIdx.map fun (v, i) => (key v, v, i)
  let sorted := numbered.mergeSort fun a b => (a.1.compare b.1).isLE
  let left := dropRepeated (fun a : Value × Value × Nat => a.1) sorted
  (left.mergeSort fun a b => a.2.2 ≤ b.2.2).map fun a => a.2.1

/-- The parts of a value, each one once. -/
def unique (v : Value) (args : List Value) : Except Failure Value := do
  let given ← names v args
  let path ← Value.optional Value.exactText (argument "attribute" given)
  let flag ← Value.optional Value.asFlag (argument "case_sensitive" given)
  onlyNamed ["case_sensitive", "attribute"] given
  let part (v : Value) : Value :=
    match path with
    | none => v
    | some path => (v.path? path).getD Value.missing
  let key (v : Value) : Value :=
    match part v with
    | .text s => if flag.getD false then .text s else .text (Text.lower s)
    | v => v
  return .ofItems (distinct key (← v.iterate))

/-- The first least part. -/
def least (v : Value) : Except Failure Value := do
  match ← listed v with
  | [] => return Value.missing
  | first :: rest => return rest.foldl (fun m v => if v.compare m = .lt then v else m) first

/-- The last greatest part. -/
def greatest (v : Value) : Except Failure Value := do
  match ← listed v with
  | [] => return Value.missing
  | first :: rest => return rest.foldl (fun m v => if v.compare m = .lt then m else v) first

end Sorting
end Template
end Rulebook
