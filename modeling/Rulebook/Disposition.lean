/-
# What becomes of a match

Specification §4.5 (Evaluator & Reconciler).

When a rule matches a resource, the resource has a say. A directive that names the rule
suppresses the finding; a directive by the rule's id is looked for in the whole list
before one by the key under which the rule is active, and the latter is deprecated and
gives a warning. Otherwise a cap of `none` mutes the finding, and what is left gets its
severity from the rule and the resource's bounds, of which the lower one wins.
-/

import Rulebook.Rule
import Rulebook.Resource

namespace Rulebook

/-- What becomes of a match. -/
inductive Disposition where
  | skipped (comment : String)
  | muted
  | active (severity : Severity)
deriving DecidableEq, Repr

/-- A directive found for a rule, with the number of warnings that finding it gave. -/
structure SkipRule.Search where
  found : Option SkipRule
  warnings : Nat
deriving DecidableEq, Repr

/-- The directive names the rule, up to ASCII case. -/
def SkipRule.names (s : SkipRule) (name : String) : Bool := Text.eqIgnoreAsciiCase s.rule name

namespace Resource

/-- The first directive for a rule's id, unless that is empty. -/
def skipById (r : Resource) (id : String) : Option SkipRule :=
  if id = "" then none else r.skipRules.find? fun s => s.names id

/-- The directive for a rule which is active under a key. -/
def findSkipRule (r : Resource) (rule : Rule) (key : String) : SkipRule.Search :=
  match r.skipById rule.id with
  | some s => ⟨some s, 0⟩
  | none =>
    match r.skipRules.find? fun s => s.names key with
    | some s => ⟨some s, 1⟩
    | none => ⟨none, 0⟩

/-- A severity under an upper bound. -/
def cap (severity : Severity) : Option Severity → Severity
  | some max => if max < severity then max else severity
  | none => severity

/-- A severity within a resource's bounds: raised to the lower bound, or else cut down to
the upper one; none if the resource mutes its findings. -/
def resolveSeverity (r : Resource) (severity : Severity) : Option Severity :=
  let within (ceiling : Option Severity) : Severity :=
    match r.minSeverity with
    | some floor => if severity ≤ floor then floor else cap severity ceiling
    | none => cap severity ceiling
  match r.maxSeverity with
  | some .mute => none
  | some (.level max) => some (within (some max))
  | none => some (within none)

/-- What becomes of a match of a rule, which is active under a key. -/
def dispose (r : Resource) (rule : Rule) (key : String) : Disposition :=
  match (r.findSkipRule rule key).found with
  | some s => .skipped s.comment
  | none =>
    match r.resolveSeverity rule.severity with
    | some severity => .active severity
    | none => .muted

end Resource

end Rulebook
