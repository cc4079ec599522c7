/-
# Compiled rules

Specification §4.3 (Rule Compiler).

Rules are compiled and their queries prepared in the order of their keys. The first
failure ends the work: the rules after it are not shown to the backend. `compileRules`
gives the backend's calls in order next to the outcome.
-/

import Rulebook.Rule.Loaded
import Rulebook.Backend

namespace Rulebook

/-- A loaded rule with its prepared query. -/
@[ext]
structure CompiledRule (Query : Type) where
  loaded : LoadedRule
  query : Query

/-- The rule itself. -/
def CompiledRule.rule {Query : Type} (c : CompiledRule Query) : Rule := c.loaded.rule

/-- The step at which a rule failed. -/
inductive CompileStage where
  | compile
  | prepare
deriving DecidableEq, Repr

/-- The wording of a step. -/
def CompileStage.description : CompileStage → String
  | compile => "compiling module"
  | prepare => "preparing query"

/-- A rule that the backend refuses. -/
structure CompileError where
  /-- The rule's name. -/
  rule : String
  stage : CompileStage
  cause : BackendError
deriving DecidableEq, Repr

/-- The wording of a refusal. -/
def CompileError.message (e : CompileError) : String :=
  "rule '" ++ e.rule ++ "' failed while " ++ e.stage.description ++ ": " ++ e.cause.message

/-- A call of a backend. -/
inductive BackendCall (Module : Type) where
  | compile (name body : String)
  | prepare (module : Module) (path : String)

/-- The path of a rule's query: the common base, a dot and the rule's name. -/
def queryPath (base name : String) : String := base ++ "." ++ name

/-- What compiling came to, after which calls. -/
structure Compilation (Module α : Type) where
  calls : List (BackendCall Module)
  outcome : Except CompileError α

section

variable {Module Query : Type}

/-- Compiles rules in the order of a list. -/
def compileEntries (b : Backend Module Query) (base : String) :
    List (String × LoadedRule) → Compilation Module (List (String × CompiledRule Query))
  | [] => ⟨[], .ok []⟩
  | (key, loaded) :: rest =>
    let name := loaded.rule.name
    let first : BackendCall Module := .compile name loaded.body
    match b.compile name loaded.body with
    | .error e => ⟨[first], .error ⟨name, .compile, e⟩⟩
    | .ok module =>
      let path := queryPath base name
      match b.prepare module path with
      | .error e => ⟨[first, .prepare module path], .error ⟨name, .prepare, e⟩⟩
      | .ok query =>
        let others := compileEntries b base rest
        ⟨first :: .prepare module path :: others.calls,
          others.outcome.map fun es => (key, ⟨loaded, query⟩) :: es⟩

/-- Compiles rules in the order of their keys. -/
def compileRules (b : Backend Module Query) (base : String) (rules : SortedMap LoadedRule) :
    Compilation Module (SortedMap (CompiledRule Query)) :=
  let c := compileEntries b base rules.entries
  ⟨c.calls, c.outcome.map SortedMap.ofList⟩

end

end Rulebook
