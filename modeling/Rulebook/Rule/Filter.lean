/-
# Filters on rules

Specification §4.1 (Filter Specification primitives).

A filter is a tree: its leaves look at one dimension of a rule, and `allOf` and `anyOf`
combine filters. Without parts both deny.

A rule is named by its canonical id or, in the deprecated way, by its reference id. Each
time a leaf that names rules matches by the reference id alone, a warning is given. Parts
are visited from the left, and only until the answer is settled; `visit` gives the answer
together with the number of warnings on the way.
-/

import Rulebook.Rule
import Rulebook.Config
import Rulebook.Text.Search

namespace Rulebook

/-- A filter on rules. -/
inductive Filter where
  /-- The policy type is one of these, or one of these is `all`. -/
  | policyType (types : List String)
  /-- The rule applies to this resource type. -/
  | resourceType (type : String)
  /-- The rule is named by this id. -/
  | referenceId (id : String)
  /-- The rule is named by one of these ids; no ids constrain nothing. -/
  | referenceIds (ids : List String)
  /-- The category is one of these; no categories constrain nothing. -/
  | category (names : List String)
  /-- The severity is at or above a minimum, if there is one. -/
  | severity (minimum : Option Severity)
  | allOf (parts : List Filter)
  | anyOf (parts : List Filter)

/-- The answer of a filter, with the number of warnings on the way to it. -/
structure Verdict where
  holds : Bool
  warnings : Nat
deriving DecidableEq, Repr

/-- An answer without warnings. -/
def Verdict.quiet (holds : Bool) : Verdict := ⟨holds, 0⟩

namespace Filter

/-- The rule's policy type is configured. A rule without one fits anything, and so does a
configuration without any. -/
def policyTypeHolds (types : List String) (r : Rule) : Bool :=
  r.policyType == "" || types.isEmpty ||
    types.any fun t => normalizeLabel t == "ALL" || normalizeLabel t == normalizeLabel r.policyType

/-- The rule applies to a resource type. A rule without one applies to every type, and a
`k8s` rule to every type that speaks of kubernetes. -/
def resourceTypeHolds (type : String) (r : Rule) : Bool :=
  r.resourceType == "" ||
    (r.policyType == "k8s" && Text.occursIn "kubernetes".toList (Text.lower type).toList) ||
    type == r.resourceType

/-- The rule's category is configured, up to case and white space. -/
def categoryHolds (names : List String) (r : Rule) : Bool :=
  names.isEmpty || (names.map normalizeLabel).contains (normalizeLabel r.category)

/-- The rule's severity reaches the minimum. -/
def severityHolds (minimum : Option Severity) (r : Rule) : Bool :=
  match minimum with
  | none => true
  | some m => r.severity.meets m

/-- An id names a rule. Being the reference id alone earns a warning. -/
def visitId (id : String) (r : Rule) : Verdict :=
  if r.id ≠ "" ∧ id = r.id then .quiet true
  else if id = r.referenceId then ⟨true, 1⟩
  else .quiet false

/-- One of the ids names a rule; ids after the first that does are not looked at. -/
def visitIds : List String → Rule → Verdict
  | [], _ => .quiet false
  | id :: rest, r =>
    let v := visitId id r
    if v.holds then v
    else
      let w := visitIds rest r
      ⟨w.holds, v.warnings + w.warnings⟩

mutual

/-- The answer for a rule. -/
def visit : Filter → Rule → Verdict
  | .policyType types, r => .quiet (policyTypeHolds types r)
  | .resourceType type, r => .quiet (resourceTypeHolds type r)
  | .referenceId id, r => visitId id r
  | .referenceIds [], _ => .quiet true
  | .referenceIds (id :: ids), r => visitIds (id :: ids) r
  | .category names, r => .quiet (categoryHolds names r)
  | .severity minimum, r => .quiet (severityHolds minimum r)
  | .allOf [], _ => .quiet false
  | .allOf (f :: fs), r => visitAll (f :: fs) r
  | .anyOf fs, r => visitAny fs r

/-- All parts hold; parts after the first that does not are not visited. -/
def visitAll : List Filter → Rule → Verdict
  | [], _ => .quiet true
  | f :: fs, r =>
    let v := visit f r
    if v.holds then
      let w := visitAll fs r
      ⟨w.holds, v.warnings + w.warnings⟩
    else v

/-- Some part holds; parts after the first that does are not visited. -/
def visitAny : List Filter → Rule → Verdict
  | [], _ => .quiet false
  | f :: fs, r =>
    let v := visit f r
    if v.holds then v
    else
      let w := visitAny fs r
      ⟨w.holds, v.warnings + w.warnings⟩

end

/-- The filter lets a rule through. -/
def satisfies (f : Filter) (r : Rule) : Bool := (f.visit r).holds

end Filter

end Rulebook
