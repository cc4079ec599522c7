/-
# Selecting rules

Specification §4.1 (Filter Specification primitives) and §4.4 (PreScan Filter).

`Selection` decides which rules become active when a policy tree is loaded: a rule must
be allowed in every configured dimension, and no skip rule may name it. `relevant` then
narrows the active rules to the resource types of one scan; a scan without types takes
them all.
-/

import Rulebook.Rule.Filter

namespace Rulebook

/-- Which rules become active. -/
structure Selection where
  scanRules : List String := []
  skipRules : List String := []
  categories : List String := []
  policyTypes : List String := []
  minimum : Option Severity := none
deriving DecidableEq, Repr

namespace Selection

/-- The selection that lets every rule through. -/
def permissive : Selection := {}

/-- The selection of a configuration. -/
def ofConfig (c : PolicyConfig) : Except ConfigError Selection :=
  match c.minimumSeverity with
  | .error e => .error e
  | .ok minimum =>
    .ok { scanRules := c.scanRules, skipRules := c.skipRules, categories := c.categories,
          policyTypes := c.policyTypes, minimum }

/-- The filter that a rule has to pass. -/
def allowFilter (s : Selection) : Filter :=
  .allOf [.referenceIds s.scanRules, .category s.categories, .severity s.minimum,
    .policyType s.policyTypes]

/-- The rule is allowed in every dimension. -/
def visitAllowed (s : Selection) (r : Rule) : Verdict := s.allowFilter.visit r

/-- A skip rule names the rule. -/
def visitSkipped (s : Selection) (r : Rule) : Verdict :=
  if s.skipRules.isEmpty then .quiet false else (Filter.referenceIds s.skipRules).visit r

/-- Allowed and not skipped. -/
def visitAdmitted (s : Selection) (r : Rule) : Verdict :=
  let v := s.visitAllowed r
  if v.holds then
    let w := s.visitSkipped r
    ⟨!w.holds, v.warnings + w.warnings⟩
  else v

/-- The rule is allowed in every dimension. -/
def allows (s : Selection) (r : Rule) : Bool := (s.visitAllowed r).holds

/-- A skip rule names the rule. -/
def skips (s : Selection) (r : Rule) : Bool := (s.visitSkipped r).holds

/-- Allowed and not skipped. -/
def admits (s : Selection) (r : Rule) : Bool := (s.visitAdmitted r).holds

end Selection

/-- The rule applies to one of the types; without types every rule does. -/
def Rule.relevant (types : List String) (r : Rule) : Bool :=
  types.isEmpty || types.any fun t => (Filter.resourceType t).satisfies r

end Rulebook
