/-
# Arguments

A call gives values by place; named arguments come as one more value behind them, a map
for whoever does not know about names. What is called takes its arguments one after the
other (`Taking`), each as a text, which any value but named arguments can be written as, as
a whole number, as a truth value or as it is, and then none may be left.
-/

import Rulebook.Template.Arithmetic

namespace Rulebook
namespace Template

namespace Value

/-- The value as it is. -/
def asItIs (v : Value) : Except Failure Value := .ok v

/-- The value as a text. -/
def asText (v : Value) : Except Failure String :=
  match v with
  | named _ _ => .error .invalidOperation
  | v => v.present.map display

/-- The value, which has to be a text. -/
def exactText (v : Value) : Except Failure String :=
  match v with
  | text s => .ok s
  | _ => .error .invalidOperation

/-- The value as a whole number of a width. -/
def asInt (bits : Nat) (v : Value) : Except Failure Int :=
  match v.toInt? with
  | some n => if SignedWidth.fits bits n then .ok n else .error .invalidOperation
  | Option.none => .error .invalidOperation

/-- The value as a truth value. -/
def asFlag (v : Value) : Except Failure Bool :=
  match v with
  | bool b => .ok b
  | _ => .error .invalidOperation

/-- An argument that may be left out; one that is not there or `none` counts as left out. -/
def optional {α : Type} (read : Value → Except Failure α) :
    Option Value → Except Failure (Option α)
  | Option.none => .ok Option.none
  | some none => .ok Option.none
  | some (undefined _) => .ok Option.none
  | some v => (read v).map some

end Value

/-- Takes arguments, the first of those that are left. -/
abbrev Taking := StateT (List Value) (Except Failure)

namespace Taking

/-- The next argument, if there is one. -/
def next? : Taking (Option Value) := do
  match ← get with
  | [] => return none
  | v :: rest => set rest; return some v

/-- The next argument, which is needed. -/
def needed {α : Type} (read : Value → Except Failure α) : Taking α := do
  match ← next? with
  | some v => read v
  | none => throw .missingArgument

/-- The next argument, which may be left out. -/
def optional {α : Type} (read : Value → Except Failure α) : Taking (Option α) := do
  Value.optional read (← next?)

/-- All arguments that are left. -/
def rest : Taking (List Value) := do
  let args ← get
  set ([] : List Value)
  return args

/-- The named arguments, and there are no others. -/
def names : Taking (List (Value × Value)) := do
  match ← rest with
  | [] => return []
  | [.named _ entries] => return entries
  | _ => throw .tooManyArguments

/-- Takes all of the arguments. -/
def all {α : Type} (t : Taking α) (args : List Value) : Except Failure α :=
  match t.run args with
  | .ok (a, []) => .ok a
  | .ok (_, _ :: _) => .error .tooManyArguments
  | .error e => .error e

end Taking

end Template
end Rulebook
