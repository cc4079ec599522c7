/-
# The policy engine

Specification §7 (Error Handling Design).

An engine holds the compiled rules of a configuration and evaluates them on any number
of resource collections. `Engine.init` loads and compiles; the backend is not called
before the whole policy tree has been loaded. An engine never changes.
-/

import Rulebook.RuleSet.Configured
import Rulebook.Evaluation

namespace Rulebook

/-- Why there is no engine for a configuration. -/
inductive InitError where
  | setup (error : SetupError)
  | compile (error : CompileError)
deriving DecidableEq, Repr

namespace InitError

/-- The wording of the cause. -/
def cause : InitError → String
  | setup (.config e) => "invalid policy configuration: " ++ e.message
  | setup (.load e) => e.message
  | compile e => e.message

/-- The wording of the error. -/
def message (e : InitError) : String := "failed to initialize policy engine: " ++ e.cause

end InitError

/-- What an engine tells about its rules. -/
@[ext]
structure EngineStats where
  /-- Active rules. -/
  ruleCount : Nat
  bodyFileCount : Nat
  metadataFileCount : Nat
  /-- Rules that passed the selection and the check of names. -/
  metadataCount : Nat
deriving DecidableEq, Repr

/-- The counts of a load under an engine's names. -/
def EngineStats.ofLoad (s : LoadStats) : EngineStats where
  ruleCount := s.ruleCount
  bodyFileCount := s.bodyFiles
  metadataFileCount := s.metadataFiles
  metadataCount := s.descriptors

/-- The compiled rules of a configuration, bound to a backend. -/
structure Engine (Module Query : Type) where
  backend : Backend Module Query
  rules : SortedMap (CompiledRule Query)
  stats : EngineStats
  /-- The outcome of every metadata file. -/
  loadResults : List LoadResult
  /-- The directory from which the rules were loaded. -/
  policyPath : Path
  config : PolicyConfig

/-- What setting up an engine came to, after which calls of the backend. -/
structure Initialization (Module Query : Type) where
  calls : List (BackendCall Module)
  outcome : Except InitError (Engine Module Query)

namespace Engine

variable {Module Query : Type}

/-- The engine of a configuration. -/
def init (backend : Backend Module Query) (tree : FileTree) (config : PolicyConfig) :
    Initialization Module Query :=
  match config.loadRules tree with
  | .error e => ⟨[], .error (.setup e)⟩
  | .ok (policyPath, set) =>
    let compiled := compileRules backend config.queryBase set.rules
    match compiled.outcome with
    | .error e => ⟨compiled.calls, .error (.compile e)⟩
    | .ok rules =>
      let stats := EngineStats.ofLoad set.stats
      ⟨compiled.calls,
        .ok { backend, rules, stats, loadResults := set.results, policyPath, config }⟩

/-- The report of a scan. -/
def evaluate (engine : Engine Module Query) (view : ResourceView) (target : ScanTarget)
    (clock : ScanClock) : Except ResourceError Report :=
  Rulebook.evaluate engine.backend engine.rules view target clock

end Engine

/-- The wording of an error in the collection of a scan. -/
def ResourceError.scanMessage (e : ResourceError) : String :=
  "failed to build scan input: " ++ e.message

end Rulebook
