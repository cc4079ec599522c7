/-
# Dividing the rules of a scan

Specification §4.5 (Evaluator & Reconciler) and §4.6 (Summary Aggregator).

A scan says nothing of a rule that depends on the other rules. So when a rule map is divided
in two, the reports of the parts merge into the report of the whole: each list is the first
part's followed by the second's, every counter is the sum, and the target is that of either,
since both parts are scanned for the same one.

What carries this is the report on a list of rules, `rulesReport`. On one list after the other
it is the merged report (`sameFindings_rulesReport_append`), and the order of the rules only
orders its lists (`permutedFindings_rulesReport`). The entries of a divided map are those of
the parts, in this order if the keys of the one come first, and otherwise in another.

The clocks of the three scans are their own, so neither start nor duration is compared.
-/

import Rulebook.Proofs.Evaluation.Counts

namespace Rulebook

variable {Module Query : Type}

/-! ### Reports up to the clock -/

/-- Two summaries have the same target and count the same. -/
structure Summary.SameCounts (s s' : Summary) : Prop where
  resourcePath : s.resourcePath = s'.resourcePath
  iacType : s.iacType = s'.iacType
  totalPolicies : s.totalPolicies = s'.totalPolicies
  violatedPolicies : s.violatedPolicies = s'.violatedPolicies
  low : s.low = s'.low
  medium : s.medium = s'.medium
  high : s.high = s'.high

/-- To have the same counts is transitive. -/
theorem Summary.SameCounts.trans {s s' s'' : Summary} (h : s.SameCounts s')
    (h' : s'.SameCounts s'') : s.SameCounts s'' where
  resourcePath := h.resourcePath.trans h'.resourcePath
  iacType := h.iacType.trans h'.iacType
  totalPolicies := h.totalPolicies.trans h'.totalPolicies
  violatedPolicies := h.violatedPolicies.trans h'.violatedPolicies
  low := h.low.trans h'.low
  medium := h.medium.trans h'.medium
  high := h.high.trans h'.high

namespace Report

/-- Two reports have the same lists and count the same. -/
structure SameFindings (r r' : Report) : Prop where
  violations : r.violations = r'.violations
  skipped : r.skipped = r'.skipped
  muted : r.muted = r'.muted
  passed : r.passed = r'.passed
  summary : r.summary.SameCounts r'.summary

/-- Two reports have the same lists up to their order and count the same. -/
structure PermutedFindings (r r' : Report) : Prop where
  violations : r.violations.Perm r'.violations
  skipped : r.skipped.Perm r'.skipped
  muted : r.muted.Perm r'.muted
  passed : r.passed.Perm r'.passed
  summary : r.summary.SameCounts r'.summary

/-- A report with the same findings has them permuted, too. -/
theorem PermutedFindings.trans_same {r r' r'' : Report} (h : r.PermutedFindings r')
    (h' : r'.SameFindings r'') : r.PermutedFindings r'' where
  violations := h'.violations ▸ h.violations
  skipped := h'.skipped ▸ h.skipped
  muted := h'.muted ▸ h.muted
  passed := h'.passed ▸ h.passed
  summary := h.summary.trans h'.summary

end Report

/-! ### The report on a list of rules -/

/-- The report on a list of rules, none of which is left out. -/
def rulesReport (b : Backend Module Query) (view : ResourceView) (input : Json.Value)
    (target : ScanTarget) (clock : ScanClock) (rules : List (String × CompiledRule Query)) :
    Report :=
  let found := scanMatches b view input rules
  let violations := found.filterMap Match.activeFinding?
  { violations
    skipped := found.filterMap Match.skippedFinding?
    muted := found.filterMap Match.mutedFinding?
    passed :=
      (rules.filter fun e => (e.2.answer b input).isPass).map fun e => PassedRule.of e.2.rule
    summary :=
      { resourcePath := target.resourcePath
        iacType := target.iacType
        timestamp := clock.start
        totalPolicies := .ofNat (rules.countP fun e => !(e.2.answer b input).isFailure)
        violatedPolicies := .ofNat violations.length
        low := .ofNat (violations.countP (·.severity = .low))
        medium := .ofNat (violations.countP (·.severity = .medium))
        high := .ofNat (violations.countP (·.severity = .high))
        totalTime := clock.elapsed } }

/-- A scan reports on the rules that it keeps. -/
theorem evaluate_eq_rulesReport (b : Backend Module Query)
    (rules : SortedMap (CompiledRule Query)) {view : ResourceView} {input : Json.Value}
    (h : view.inputDocument = .ok input) (target : ScanTarget) (clock : ScanClock) :
    evaluate b rules view target clock =
      .ok (rulesReport b view input target clock (keptRules view.types rules)) :=
  evaluate_eq_scanReport b rules h target clock

section

variable (b : Backend Module Query) (view : ResourceView) (input : Json.Value)
  (target : ScanTarget)

/-- The matches of rules come rule by rule. -/
theorem scanMatches_append (rules rules' : List (String × CompiledRule Query)) :
    scanMatches b view input (rules ++ rules') =
      scanMatches b view input rules ++ scanMatches b view input rules' :=
  List.flatMap_append

/-- **On one list of rules after the other, the report is the merged one.** -/
theorem sameFindings_rulesReport_append (clock clock₁ clock₂ : ScanClock)
    (rules₁ rules₂ : List (String × CompiledRule Query)) :
    (rulesReport b view input target clock (rules₁ ++ rules₂)).SameFindings
      ((rulesReport b view input target clock₁ rules₁).merge
        (rulesReport b view input target clock₂ rules₂)) where
  violations := by
    simp only [rulesReport, Report.merge, scanMatches_append, List.filterMap_append]
  skipped := by
    simp only [rulesReport, Report.merge, scanMatches_append, List.filterMap_append]
  muted := by
    simp only [rulesReport, Report.merge, scanMatches_append, List.filterMap_append]
  passed := by
    simp only [rulesReport, Report.merge, List.filter_append, List.map_append]
  summary := by
    have hfirst (text : String) : Summary.firstText text text = text := by
      rw [Summary.firstText]
      split
      · rfl
      · rfl
    constructor <;>
      simp only [rulesReport, Report.merge, Summary.merge, hfirst, scanMatches_append,
        List.filterMap_append, List.length_append, List.countP_append, UInt64.ofNat_add]

/-- **The order of the rules only orders the lists of a report.** -/
theorem permutedFindings_rulesReport (clock clock' : ScanClock)
    {rules rules' : List (String × CompiledRule Query)} (h : rules.Perm rules') :
    (rulesReport b view input target clock rules).PermutedFindings
      (rulesReport b view input target clock' rules') := by
  have hfound : (scanMatches b view input rules).Perm (scanMatches b view input rules') :=
    h.flatMap_right _
  have hviolations := hfound.filterMap Match.activeFinding?
  exact
    { violations := hviolations
      skipped := hfound.filterMap _
      muted := hfound.filterMap _
      passed := (h.filter _).map _
      summary :=
        { resourcePath := rfl
          iacType := rfl
          totalPolicies := congrArg UInt64.ofNat (h.countP_eq _)
          violatedPolicies := congrArg UInt64.ofNat hviolations.length_eq
          low := congrArg UInt64.ofNat (hviolations.countP_eq _)
          medium := congrArg UInt64.ofNat (hviolations.countP_eq _)
          high := congrArg UInt64.ofNat (hviolations.countP_eq _) } }

end

/-- **Dividing the rules of a scan.**  If a rule map is divided in two, the scans of both parts
merge into the scan of the whole, up to the order in the lists; and also in this order, if the
keys of the first part come before those of the second. -/
theorem evaluate_splits (b : Backend Module Query) {view : ResourceView} {input : Json.Value}
    (hin : view.inputDocument = .ok input) (target : ScanTarget) (clock clock₁ clock₂ : ScanClock)
    {rules rules₁ rules₂ : SortedMap (CompiledRule Query)} (h : rules.SplitsInto rules₁ rules₂) :
    ∃ r r₁ r₂, evaluate b rules view target clock = .ok r ∧
      evaluate b rules₁ view target clock₁ = .ok r₁ ∧
      evaluate b rules₂ view target clock₂ = .ok r₂ ∧
      r.PermutedFindings (r₁.merge r₂) ∧
      ((∀ k ∈ rules₁.keys, ∀ k' ∈ rules₂.keys, k < k') → r.SameFindings (r₁.merge r₂)) := by
  have happend := sameFindings_rulesReport_append b view input target clock clock₁ clock₂
    (keptRules view.types rules₁) (keptRules view.types rules₂)
  refine ⟨_, _, _, evaluate_eq_rulesReport b rules hin target clock,
    evaluate_eq_rulesReport b rules₁ hin target clock₁,
    evaluate_eq_rulesReport b rules₂ hin target clock₂, ?_, fun hlt => ?_⟩
  · have hkept : (keptRules view.types rules).Perm
        (keptRules view.types rules₁ ++ keptRules view.types rules₂) := by
      rw [keptRules, keptRules, keptRules, ← List.filter_append]
      exact h.perm_entries.filter _
    exact (permutedFindings_rulesReport b view input target clock clock hkept).trans_same happend
  · have hkept : keptRules view.types rules =
        keptRules view.types rules₁ ++ keptRules view.types rules₂ := by
      rw [keptRules, keptRules, keptRules, ← List.filter_append, h.entries_eq_append hlt]
    rw [hkept]
    exact happend

/-! ### Two rules and the third -/

namespace ThreeRules

/-- The rules whose keys come before `quiet`. -/
def early : SortedMap (CompiledRule String) := rules.filter fun key _ => decide (key < "quiet")

/-- The other rules. -/
def late : SortedMap (CompiledRule String) := rules.filter fun key _ => !decide (key < "quiet")

/-- The hypotheses of `evaluate_splits` are satisfiable: the rule that fails and the one with a
finding are in the first part, the one that passes is in the second. -/
theorem evaluate_splits_threeRules :
    graph.view.inputDocument = .ok graph.inputDocument ∧ rules.SplitsInto early late ∧
      (∀ k ∈ early.keys, ∀ k' ∈ late.keys, k < k') ∧
      ∃ r r₁ r₂, evaluate backend rules graph.view {} ⟨⟨0, 0⟩, .zero⟩ = .ok r ∧
        evaluate backend early graph.view {} ⟨⟨1, 0⟩, .zero⟩ = .ok r₁ ∧
        evaluate backend late graph.view {} ⟨⟨2, 0⟩, .zero⟩ = .ok r₂ ∧
        r.violations.length = 1 ∧ r.passed.length = 1 ∧ r.PermutedFindings (r₁.merge r₂) ∧
        r.SameFindings (r₁.merge r₂) := by
  have hin : graph.view.inputDocument = .ok graph.inputDocument := rfl
  have hsplit : rules.SplitsInto early late := SortedMap.splitsInto_filter _ rules
  have hlt : ∀ k ∈ early.keys, ∀ k' ∈ late.keys, k < k' := by decide
  obtain ⟨r, r₁, r₂, hr, hr₁, hr₂, hperm, hsame⟩ :=
    evaluate_splits backend hin {} ⟨⟨0, 0⟩, .zero⟩ ⟨⟨1, 0⟩, .zero⟩ ⟨⟨2, 0⟩, .zero⟩ hsplit
  have hreport : r = report :=
    Except.ok.inj (hr.symm.trans (evaluate_eq_scanReport backend rules hin {} ⟨⟨0, 0⟩, .zero⟩))
  refine ⟨hin, hsplit, hlt, r, r₁, r₂, hr, hr₁, hr₂, ?_, ?_, hperm, hsame hlt⟩
  · rw [hreport]
    decide
  · rw [hreport]
    decide

end ThreeRules

end Rulebook
