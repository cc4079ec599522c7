/-
# Backends

Specification §6 (External Interfaces).

What a rule body says is a backend's business: it compiles a body under the name of its
rule, prepares a query against the compiled module, and evaluates a query on the value of
a scan. The answer of an evaluation is a list of identifiers of violating resources; the
empty list means that the rule passes.
-/

import Rulebook.Json.Basic

namespace Rulebook

/-- A failure that a backend reports. -/
inductive BackendError where
  | compile (reason : String)
  | prepare (reason : String)
  | evaluate (reason : String)
deriving DecidableEq, Repr

/-- The wording of a backend's failure. -/
def BackendError.message : BackendError → String
  | compile reason => "compile error: " ++ reason
  | prepare reason => "query preparation error: " ++ reason
  | evaluate reason => "evaluation error: " ++ reason

/-- A compiler and evaluator of rule bodies. -/
structure Backend (Module Query : Type) where
  /-- The module of a body, under a name. -/
  compile : String → String → Except BackendError Module
  /-- The query at a path of a module. -/
  prepare : Module → String → Except BackendError Query
  /-- The identifiers that a query gives on a value. -/
  evaluate : Query → Json.Value → Except BackendError (List Json.Value)

end Rulebook
