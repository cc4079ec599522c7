/-
# Evaluation

Specification §4.4 (PreScan Filter) and §4.5 (Evaluator & Reconciler).

A scan evaluates the compiled rules that are relevant to its resources, in the order of
their keys. A rule whose query fails is left out of the count of rules; a rule without
identifiers has passed; otherwise each identifier is looked up, and every resource found
is one match, which lands in the list that its disposition says. Malformed and unknown
identifiers give no match.

The clock is a parameter: the start of the scan and the time that it took.
-/

import Rulebook.Rule.Compiled
import Rulebook.Rule.Selection
import Rulebook.Resource.Graph
import Rulebook.Identifier
import Rulebook.Disposition
import Rulebook.Report

namespace Rulebook

namespace Report

/-- The report with one more match. -/
def recordMatch (rule : Rule) (key : String) (r : Report) (resource : Resource) : Report :=
  match resource.dispose rule key with
  | .skipped comment =>
    { r with skipped :=
        r.skipped ++ [(Violation.of rule resource rule.severity).withComment comment] }
  | .muted => { r with muted := r.muted ++ [Violation.of rule resource rule.severity] }
  | .active severity =>
    { r with
      violations := r.violations ++ [Violation.of rule resource severity]
      summary := r.summary.record severity }

/-- The resources that a value names. -/
def resolve (view : ResourceView) (v : Json.Value) : List Resource :=
  match Identifier.ofValue v with
  | .error _ => []
  | .ok identifier =>
    match view.findAllById identifier.resourceId with
    | .error _ => []
    | .ok found => found

/-- The report with one rule fewer in its count. -/
def dropRule (r : Report) : Report :=
  { r with summary := { r.summary with totalPolicies := r.summary.totalPolicies - 1 } }

/-- The report after one more rule. -/
def recordRule (view : ResourceView) (key : String) (rule : Rule) (r : Report) :
    Except BackendError (List Json.Value) → Report
  | .error _ => r.dropRule
  | .ok [] => { r with passed := r.passed ++ [PassedRule.of rule] }
  | .ok identifiers =>
    identifiers.foldl (fun r v => (resolve view v).foldl (recordMatch rule key) r) r

end Report

/-- The beginning of a scan and the time that it takes. -/
structure ScanClock where
  start : Timestamp
  elapsed : Duration
deriving DecidableEq, Repr

/-- The rules that are relevant to some resource types. -/
def relevantRules {Query : Type} (types : List String) (rules : SortedMap (CompiledRule Query)) :
    SortedMap (CompiledRule Query) :=
  rules.filter fun _ c => c.rule.relevant types

/-- The report of a scan. Only a collection that gives no value to evaluate on is an error. -/
def evaluate {Module Query : Type} (b : Backend Module Query)
    (rules : SortedMap (CompiledRule Query)) (view : ResourceView) (target : ScanTarget)
    (clock : ScanClock) : Except ResourceError Report :=
  match view.inputDocument with
  | .error e => .error e
  | .ok input =>
    let selected := relevantRules view.types rules
    let start := { Summary.start target clock.start with
      totalPolicies := .ofNat selected.size, totalTime := clock.elapsed }
    .ok (selected.entries.foldl
      (fun r e => r.recordRule view e.1 e.2.rule (b.evaluate e.2.query input))
      (Report.start start))

end Rulebook
