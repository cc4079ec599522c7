/-
# What a selection admits

Specification §4.1 (Filter Specification primitives).

`Selection.Admits` says what a selection asks of a rule, dimension by dimension, and a rule that
has all of it is admitted (`Selection.admits_eq_true_iff`).

A list of choices means the opposite when it is empty: a rule has to have one of the scan rules,
categories or policy types only where there are any, whereas no skip rules skip nothing. So to
add entries to such a list admits more rules if it has entries already, and fewer if it has none.
`Selection.Loosens` is the relation between two selections of which the second asks no more in any
dimension, and what is known of two such selections follows from its one lemma
(`Selection.Loosens.admits`).
-/

import Rulebook.Proofs.Rule.Selection

namespace Rulebook

namespace Selection

/-- All that a selection asks of a rule. -/
structure Admits (s : Selection) (r : Rule) : Prop where
  scanned : s.scanRules ≠ [] → ∃ id ∈ s.scanRules, r.NamedBy id
  not_skipped : ∀ id ∈ s.skipRules, ¬ r.NamedBy id
  category : r.CategoryAmong s.categories
  severity : ∀ m ∈ s.minimum, m ≤ r.severity
  policyType : r.PolicyTypeAmong s.policyTypes

variable {s s' : Selection} {r : Rule}

/-- A list leaves no fewer choices than another: entries are added to some that are there, or
there are none left, which leaves the choice open. -/
def LeavesMore (choices choices' : List String) : Prop :=
  choices' = [] ∨ choices ≠ [] ∧ choices ⊆ choices'

/-- Choices leave at least as much as they do. -/
theorem LeavesMore.refl (choices : List String) : LeavesMore choices choices := by
  by_cases h : choices = []
  · exact .inl h
  · exact .inr ⟨h, List.Subset.refl _⟩

/-- What is met by one of the choices is met by one of more. -/
theorem LeavesMore.exists_mem {choices choices' : List String} (h : LeavesMore choices choices')
    {p : String → Prop} (hp : choices ≠ [] → ∃ c ∈ choices, p c) :
    choices' ≠ [] → ∃ c ∈ choices', p c := by
  intro hne
  obtain hnil | ⟨hsome, hsubset⟩ := h
  · exact absurd hnil hne
  · obtain ⟨c, hc, hpc⟩ := hp hsome
    exact ⟨c, hsubset hc, hpc⟩

/-- The second of two selections asks no more than the first in any dimension. -/
structure Loosens (s s' : Selection) : Prop where
  scanRules : LeavesMore s.scanRules s'.scanRules
  skipRules : s'.skipRules ⊆ s.skipRules
  categories : LeavesMore s.categories s'.categories
  policyTypes : LeavesMore s.policyTypes s'.policyTypes
  minimum : ∀ m' ∈ s'.minimum, ∃ m ∈ s.minimum, m' ≤ m

/-- **Asking less admits all that was admitted.** -/
theorem Loosens.admits (h : s.Loosens s') (hr : s.Admits r) : s'.Admits r where
  scanned := h.scanRules.exists_mem hr.scanned
  not_skipped id hid := hr.not_skipped id (h.skipRules hid)
  category := h.categories.exists_mem hr.category
  severity m' hm' := by
    obtain ⟨m, hm, hle⟩ := h.minimum m' hm'
    have hrank : m.rank ≤ r.severity.rank := hr.severity m hm
    exact Nat.le_trans hle hrank
  policyType htype := h.policyTypes.exists_mem (hr.policyType htype)

/-- Two selections have the same minimum and, in each list, the same entries, in whatever order
and however often. -/
structure SameEntries (s s' : Selection) : Prop where
  scanRules : ∀ id, id ∈ s.scanRules ↔ id ∈ s'.scanRules
  skipRules : ∀ id, id ∈ s.skipRules ↔ id ∈ s'.skipRules
  categories : ∀ name, name ∈ s.categories ↔ name ∈ s'.categories
  policyTypes : ∀ type, type ∈ s.policyTypes ↔ type ∈ s'.policyTypes
  minimum : s.minimum = s'.minimum

/-- To have the same entries is symmetric. -/
theorem SameEntries.symm (h : s.SameEntries s') : s'.SameEntries s where
  scanRules id := (h.scanRules id).symm
  skipRules id := (h.skipRules id).symm
  categories name := (h.categories name).symm
  policyTypes type := (h.policyTypes type).symm
  minimum := h.minimum.symm

end Selection

end Rulebook
