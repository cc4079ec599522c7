/-
# Identifiers of violating resources

Specification §4.5 (Evaluator & Reconciler).

For each violating resource a backend gives a value: the resource's id as a text, or an
object with the id under `Id`, whose other fields carry no meaning.
-/

import Rulebook.Json.Printer

namespace Rulebook

/-- How a backend names a violating resource. -/
inductive Identifier where
  | simple (id : String)
  | withId (id : String)
deriving DecidableEq, Repr

/-- Why a value names no resource. -/
inductive IdentifierError where
  | missingId (value : Json.Value)
  | invalidId (value : Json.Value)
  | unsupportedShape (value : Json.Value)

/-- The wording of a malformed identifier. -/
def IdentifierError.message : IdentifierError → String
  | missingId v => "no Id key found in resource map: " ++ v.json.compress false
  | invalidId v => "Id key is not a string: " ++ v.json.compress false
  | unsupportedShape v => "resource identifier has unsupported shape: " ++ v.json.compress false

namespace Identifier

/-- The field that holds the id. -/
def idKey : String := "Id"

/-- The id of the resource. -/
def resourceId : Identifier → String
  | simple id => id
  | withId id => id

/-- What a value names. -/
def ofValue (v : Json.Value) : Except IdentifierError Identifier :=
  match v.json with
  | .string id => .ok (.simple id)
  | .object fields =>
    match lookupEntry idKey fields with
    | some (.string id) => .ok (.withId id)
    | some _ => .error (.invalidId v)
    | none => .error (.missingId v)
  | _ => .error (.unsupportedShape v)

end Identifier

end Rulebook
