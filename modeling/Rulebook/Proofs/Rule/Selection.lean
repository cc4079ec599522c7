/-
# What a selection lets through

Specification §4.1 (Filter Specification primitives).

A selection answers by visiting filters. Here its answers are said without visits: which
rules an id names (`Rule.NamedBy`), which rules a selection allows (`Selection.allows_iff`)
and skips (`Selection.skips_iff`), and what it takes to be relevant to the resource types of
a scan (`Rule.relevant_iff`). `PolicyConfig.Admits` puts together what a configuration asks
of a rule, and a rule passes the screen of its selection exactly if it has that
(`PolicyConfig.screen_eq_none_iff`).
-/

import Rulebook.RuleSet

namespace Rulebook

namespace Rule

/-- An id names a rule: it is the rule's own id, which may not be empty, or its reference
id. -/
def NamedBy (r : Rule) (id : String) : Prop := r.id ≠ "" ∧ id = r.id ∨ id = r.referenceId

/-- The category of a rule is one of some names, up to case and white space. No names
constrain nothing. -/
def CategoryAmong (r : Rule) (names : List String) : Prop :=
  names ≠ [] → ∃ name ∈ names, normalizeLabel name = normalizeLabel r.category

/-- The policy type of a rule is one of some types, or one of these is `all`. No types
constrain nothing, and a rule without a type fits any. -/
def PolicyTypeAmong (r : Rule) (types : List String) : Prop :=
  r.policyType ≠ "" → types ≠ [] →
    ∃ type ∈ types, normalizeLabel type = "ALL" ∨ normalizeLabel type = normalizeLabel r.policyType

/-- A rule applies to a resource type: it is the rule's own, the rule has none, or the rule
is for `k8s` and the type speaks of kubernetes. -/
def AppliesTo (r : Rule) (type : String) : Prop :=
  r.resourceType = "" ∨
    r.policyType = "k8s" ∧ "kubernetes".toList <:+: (Text.lower type).toList ∨
    type = r.resourceType

end Rule

/-! ### The answers of filters -/

namespace Filter

/-- An id matches a rule that it names. -/
theorem holds_visitId_iff {id : String} {r : Rule} :
    (visitId id r).holds = true ↔ r.NamedBy id := by
  unfold visitId Rule.NamedBy
  by_cases hid : r.id ≠ "" ∧ id = r.id
  · rw [if_pos hid]
    exact ⟨fun _ => .inl hid, fun _ => rfl⟩
  · rw [if_neg hid]
    by_cases href : id = r.referenceId
    · rw [if_pos href]
      exact ⟨fun _ => .inr href, fun _ => rfl⟩
    · rw [if_neg href]
      constructor
      · intro h
        cases h
      · intro h
        exact absurd h (not_or.2 ⟨hid, href⟩)

/-- Ids are looked at up to the first that names the rule. -/
theorem holds_visitIds_iff {ids : List String} {r : Rule} :
    (visitIds ids r).holds = true ↔ ∃ id ∈ ids, r.NamedBy id := by
  induction ids with
  | nil => simp [visitIds, Verdict.quiet]
  | cons id rest ih =>
    simp only [List.mem_cons, exists_eq_or_imp]
    rw [← holds_visitId_iff, ← ih, visitIds]
    by_cases h : (visitId id r).holds = true
    · simp [h]
    · simp [h]

/-- A list of ids lets a rule pass that one of them names, or every rule if it is empty. -/
theorem satisfies_referenceIds_iff {ids : List String} {r : Rule} :
    (referenceIds ids).satisfies r = true ↔ (ids ≠ [] → ∃ id ∈ ids, r.NamedBy id) := by
  rcases ids with _ | ⟨id, rest⟩
  · simp [satisfies, visit, Verdict.quiet]
  · rw [satisfies, visit, holds_visitIds_iff]
    exact ⟨fun h _ => h, fun h => h (by simp)⟩

/-- A list of categories lets a rule pass whose category is among them. -/
theorem satisfies_category_iff {names : List String} {r : Rule} :
    (category names).satisfies r = true ↔ r.CategoryAmong names := by
  rw [satisfies, visit, Verdict.quiet, categoryHolds, Rule.CategoryAmong]
  rcases names with _ | ⟨name, rest⟩
  · simp
  · rw [List.isEmpty_cons, Bool.false_or, List.contains_iff_mem, List.mem_map]
    exact ⟨fun h _ => h, fun h => h (by simp)⟩

/-- A minimum severity lets a rule pass that is at least as severe. -/
theorem satisfies_severity_iff {minimum : Option Severity} {r : Rule} :
    (severity minimum).satisfies r = true ↔ ∀ m ∈ minimum, m ≤ r.severity := by
  rw [satisfies, visit, Verdict.quiet]
  rcases minimum with _ | m
  · simp [severityHolds]
  · simp [severityHolds, Severity.meets]

/-- A list of policy types lets a rule pass whose type is among them. -/
theorem satisfies_policyType_iff {types : List String} {r : Rule} :
    (policyType types).satisfies r = true ↔ r.PolicyTypeAmong types := by
  rw [satisfies, visit, Verdict.quiet, policyTypeHolds, Rule.PolicyTypeAmong]
  by_cases htype : r.policyType = ""
  · simp [htype]
  · rcases types with _ | ⟨type, rest⟩
    · simp
    · simp [htype]

/-- A resource type lets a rule pass that applies to it. -/
theorem satisfies_resourceType_iff {type : String} {r : Rule} :
    (resourceType type).satisfies r = true ↔ r.AppliesTo type := by
  rw [satisfies, visit, Verdict.quiet, resourceTypeHolds, Rule.AppliesTo]
  simp only [Bool.or_eq_true, Bool.and_eq_true, beq_iff_eq, Text.occursIn_iff, or_assoc]

/-- Parts are visited up to the first that does not hold. -/
theorem holds_visitAll_iff {parts : List Filter} {r : Rule} :
    (visitAll parts r).holds = true ↔ ∀ f ∈ parts, f.satisfies r = true := by
  induction parts with
  | nil => simp [visitAll, Verdict.quiet]
  | cons f rest ih =>
    rw [List.forall_mem_cons, ← ih, visitAll, satisfies]
    by_cases h : (visit f r).holds = true
    · simp [h]
    · simp [h]

end Filter

/-! ### The answers of selections -/

namespace Selection

variable {s : Selection} {r : Rule}

/-- **What a selection allows.** -/
theorem allows_iff :
    s.allows r = true ↔
      (s.scanRules ≠ [] → ∃ id ∈ s.scanRules, r.NamedBy id) ∧ r.CategoryAmong s.categories ∧
        (∀ m ∈ s.minimum, m ≤ r.severity) ∧ r.PolicyTypeAmong s.policyTypes := by
  rw [allows, visitAllowed, allowFilter, Filter.visit, Filter.holds_visitAll_iff]
  simp only [List.forall_mem_cons, Filter.satisfies_referenceIds_iff, Filter.satisfies_category_iff,
    Filter.satisfies_severity_iff, Filter.satisfies_policyType_iff, List.not_mem_nil, false_imp_iff,
    implies_true, and_true]

/-- **What a selection skips.** -/
theorem skips_iff : s.skips r = true ↔ ∃ id ∈ s.skipRules, r.NamedBy id := by
  rw [skips, visitSkipped]
  rcases hids : s.skipRules with _ | ⟨id, rest⟩
  · simp [Verdict.quiet]
  · rw [if_neg (by simp), ← Filter.satisfies, Filter.satisfies_referenceIds_iff]
    exact ⟨fun h => h (by simp), fun h _ => h⟩

/-- A selection admits a rule that it allows and does not skip. -/
theorem admits_iff : s.admits r = true ↔ s.allows r = true ∧ s.skips r = false := by
  unfold admits visitAdmitted allows skips
  by_cases h : (s.visitAllowed r).holds = true <;> simp [h]

/-- A rule passes the screening if it is allowed, not skipped, and has no reserved name. -/
theorem screen_eq_none_iff :
    s.screen r = none ↔
      s.allows r = true ∧ ¬ s.skips r = true ∧ ¬ r.hasReservedName = true := by
  unfold screen
  rcases s.allows r <;> rcases s.skips r <;> rcases r.hasReservedName <;> simp

end Selection

/-- A rule is relevant to types if it applies to one of them, or if there are none. -/
theorem Rule.relevant_iff {types : List String} {r : Rule} :
    r.relevant types = true ↔ (types ≠ [] → ∃ type ∈ types, r.AppliesTo type) := by
  rw [relevant, Bool.or_eq_true, List.any_eq_true, List.isEmpty_iff]
  simp only [Filter.satisfies_resourceType_iff]
  exact Decidable.or_iff_not_imp_left

/-! ### What a configuration asks of a rule -/

namespace PolicyConfig

/-- A configuration admits a rule. -/
structure Admits (c : PolicyConfig) (r : Rule) : Prop where
  not_skipped : ∀ id ∈ c.skipRules, ¬ r.NamedBy id
  scanned : c.scanRules ≠ [] → ∃ id ∈ c.scanRules, r.NamedBy id
  severity : ∃ minimum, c.minimumSeverity = .ok minimum ∧ ∀ m ∈ minimum, m ≤ r.severity
  category : r.CategoryAmong c.categories
  policyType : r.PolicyTypeAmong c.policyTypes
  undotted : '.' ∉ r.name.toList

/-- **A rule passes the screen of a configuration's selection exactly if the configuration
admits it.** -/
theorem screen_eq_none_iff {c : PolicyConfig} {s : Selection} {r : Rule}
    (h : Selection.ofConfig c = .ok s) : s.screen r = none ↔ c.Admits r := by
  unfold Selection.ofConfig at h
  rcases hmin : c.minimumSeverity with e | minimum
  · rw [hmin] at h
    cases h
  · rw [hmin] at h
    obtain rfl := Except.ok.inj h
    rw [Selection.screen_eq_none_iff, Selection.allows_iff, Selection.skips_iff]
    have hname : r.hasReservedName = true ↔ '.' ∈ r.name.toList := by
      rw [Rule.hasReservedName, List.contains_iff_mem]
    constructor
    · rintro ⟨⟨hscan, hcategory, hseverity, htype⟩, hskip, hdot⟩
      exact ⟨fun id hid hnamed => hskip ⟨id, hid, hnamed⟩, hscan, ⟨minimum, hmin, hseverity⟩,
        hcategory, htype, mt hname.2 hdot⟩
    · rintro ⟨hskip, hscan, ⟨minimum', hmin', hseverity⟩, hcategory, htype, hdot⟩
      obtain rfl := Except.ok.inj (hmin.symm.trans hmin')
      exact ⟨⟨hscan, hcategory, hseverity, htype⟩, fun ⟨id, hid, hnamed⟩ => hskip id hid hnamed,
        mt hname.1 hdot⟩

end PolicyConfig

end Rulebook
