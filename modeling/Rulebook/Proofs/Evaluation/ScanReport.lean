/-
# The report of a scan, all at once

Specification §4.5 (Evaluator & Reconciler).

`evaluate` builds its report rule by rule, value by value and resource by resource.
`scanReport` says what comes of it without going step by step: each list of findings holds
what the matches of the scan give it, in the order of the matches, and the summary counts
these lists. That both are one report is `evaluate_eq_scanReport`.

The way there is `Report.extend`, which files matches, passes and failures in a report.
Recording the answer of one rule is an extension (`Report.recordRule_eq_extend`), one
extension after the other is a single one (`Report.extend_extend`), and so the rules of a
scan extend its empty report by all that they meet (`Report.recordRules_eq_extend`).
-/

import Rulebook.Proofs.Evaluation.Match
import Rulebook.Proofs.SortedMap

namespace Rulebook

variable {Module Query : Type}

/-! ### Counting findings -/

namespace Summary

/-- The summary with more findings that count. -/
def count (s : Summary) (vs : List Violation) : Summary :=
  { s with
    violatedPolicies := s.violatedPolicies + .ofNat vs.length
    low := s.low + .ofNat (vs.countP (·.severity = .low))
    medium := s.medium + .ofNat (vs.countP (·.severity = .medium))
    high := s.high + .ofNat (vs.countP (·.severity = .high)) }

@[simp] theorem count_nil (s : Summary) : s.count [] = s := by
  simp [count]

/-- Findings are counted one list after the other. -/
theorem count_count (s : Summary) (vs ws : List Violation) :
    (s.count vs).count ws = s.count (vs ++ ws) := by
  simp only [count, List.length_append, List.countP_append, UInt64.ofNat_add, UInt64.add_assoc]

end Summary

/-! ### Extending a report -/

namespace Report

/-- The report with more matches, each filed where its finding belongs, more passes and
more rules that failed. -/
def extend (r : Report) (ms : List Match) (passes : List PassedRule) (failures : Nat) :
    Report where
  violations := r.violations ++ ms.filterMap Match.activeFinding?
  skipped := r.skipped ++ ms.filterMap Match.skippedFinding?
  muted := r.muted ++ ms.filterMap Match.mutedFinding?
  passed := r.passed ++ passes
  summary :=
    { r.summary.count (ms.filterMap Match.activeFinding?) with
      totalPolicies := r.summary.totalPolicies - .ofNat failures }

@[simp] theorem extend_nil (r : Report) : r.extend [] [] 0 = r := by
  simp [extend]

/-- A report is extended step by step. -/
theorem extend_extend (r : Report) (ms ms' : List Match) (ps ps' : List PassedRule)
    (n n' : Nat) :
    (r.extend ms ps n).extend ms' ps' n' = r.extend (ms ++ ms') (ps ++ ps') (n + n') := by
  have hcount := r.summary.count_count (ms.filterMap Match.activeFinding?)
    (ms'.filterMap Match.activeFinding?)
  have hfailures (t : UInt64) : t - .ofNat n - .ofNat n' = t - .ofNat (n + n') := by
    rw [UInt64.ofNat_add]
    grind
  simp only [Summary.count, Summary.mk.injEq] at hcount
  simp [extend, Summary.count, hcount, hfailures]

/-- Recording a match files its one finding. -/
theorem recordMatch_eq_extend (r : Report) (m : Match) :
    r.recordMatch m.rule m.key m.resource = r.extend [m] [] 0 := by
  have hdir : m.directive? = (m.resource.findSkipRule m.rule m.key).found := rfl
  have hmute := m.resource.resolveSeverity_eq_none_iff m.rule.severity
  unfold recordMatch Resource.dispose
  rw [← hdir]
  rcases hd : m.directive? with _ | s
  · rcases hs : m.resource.resolveSeverity m.rule.severity with _ | severity
    · simp [extend, Match.activeFinding?, Match.skippedFinding?, Match.mutedFinding?, hd,
        hmute.1 hs]
    · have hm : m.resource.maxSeverity ≠ some .mute := fun h => by simp [hmute.2 h] at hs
      rcases severity <;>
        simp [extend, Match.activeFinding?, Match.skippedFinding?, Match.mutedFinding?, hd, hm, hs,
          Summary.record, Summary.count, Violation.of]
  · simp [extend, Match.activeFinding?, Match.skippedFinding?, Match.mutedFinding?, hd]

/-- A value resolves to the resources that it names. -/
theorem resolve_eq_map_named (view : ResourceView) (v : Json.Value) :
    resolve view v = (view.named v).map (·.2) := by
  unfold resolve ResourceView.named Identifier.ofValue Json.Value.namedId? Identifier.idKey
  rcases v.json with _ | _ | _ | id | _ | fields
  case string =>
    dsimp only [Identifier.resourceId]
    rcases view.findAllById id with e | found <;> simp [Function.comp_def]
  case object =>
    dsimp only
    rcases lookupEntry "Id" fields with _ | _ | _ | _ | id | _ | _
    case some.string =>
      dsimp only [Identifier.resourceId]
      rcases view.findAllById id with e | found <;> simp [Function.comp_def]
    all_goals rfl
  all_goals rfl

/-- Matches are recorded one after the other. -/
theorem foldl_recordMatch (r : Report) (ms : List Match) :
    ms.foldl (fun r m => r.recordMatch m.rule m.key m.resource) r = r.extend ms [] 0 := by
  induction ms generalizing r with
  | nil => rw [List.foldl_nil, extend_nil]
  | cons m ms ih =>
    rw [List.foldl_cons, ih, recordMatch_eq_extend, extend_extend]
    rfl

/-- Looking values up and recording what is found files the matches of the values. -/
theorem foldl_resolve (r : Report) (view : ResourceView) (key : String) (rule : Rule)
    (values : List Json.Value) :
    values.foldl (fun r v => (resolve view v).foldl (recordMatch rule key) r) r =
      r.extend (Answer.hits view key rule (.ok values)) [] 0 := by
  rw [← foldl_recordMatch, Answer.hits, Answer.values, List.foldl_flatMap]
  congr
  funext r v
  rw [resolve_eq_map_named, List.foldl_map, List.foldl_map]

/-- Recording a rule's answer files its matches, its pass or its failure. -/
theorem recordRule_eq_extend (r : Report) (view : ResourceView) (key : String) (rule : Rule)
    (answer : Answer) :
    r.recordRule view key rule answer =
      r.extend (answer.hits view key rule) (if answer.isPass then [PassedRule.of rule] else [])
        (if answer.isFailure then 1 else 0) := by
  rcases answer with e | _ | ⟨v, vs⟩
  · simp [recordRule, dropRule, extend, Answer.hits, Answer.values]
  · simp [recordRule, extend, Answer.hits, Answer.values]
  · exact foldl_resolve r view key rule (v :: vs)

/-- The report after the rules of a list, one by one. -/
def recordRules (b : Backend Module Query) (view : ResourceView) (input : Json.Value)
    (r : Report) (rules : List (String × CompiledRule Query)) : Report :=
  rules.foldl (fun r e => r.recordRule view e.1 e.2.rule (e.2.answer b input)) r

/-- **The rules of a list extend a report by all that they meet.** -/
theorem recordRules_eq_extend (b : Backend Module Query) (view : ResourceView)
    (input : Json.Value) (r : Report) (rules : List (String × CompiledRule Query)) :
    r.recordRules b view input rules =
      r.extend (scanMatches b view input rules)
        ((rules.filter fun e => (e.2.answer b input).isPass).map fun e => PassedRule.of e.2.rule)
        (rules.countP fun e => (e.2.answer b input).isFailure) := by
  induction rules generalizing r with
  | nil => exact (extend_nil r).symm
  | cons e rest ih =>
    rw [recordRules, List.foldl_cons, ← recordRules, ih, recordRule_eq_extend, extend_extend,
      scanMatches_cons, List.countP_cons, Nat.add_comm]
    congr 1
    by_cases hp : (e.2.answer b input).isPass = true <;> simp [hp]

end Report

/-! ### The report as a whole -/

/-- The rules of a map that apply to one of some resource types, in the order of their
keys; to no types at all, every rule applies. -/
def keptRules (types : List String) (rules : SortedMap (CompiledRule Query)) :
    List (String × CompiledRule Query) :=
  rules.entries.filter fun e => e.2.rule.relevant types

/-- The report of a scan, said list by list. -/
def scanReport (b : Backend Module Query) (rules : SortedMap (CompiledRule Query))
    (view : ResourceView) (input : Json.Value) (target : ScanTarget) (clock : ScanClock) :
    Report :=
  let kept := keptRules view.types rules
  let found := scanMatches b view input kept
  let violations := found.filterMap Match.activeFinding?
  { violations
    skipped := found.filterMap Match.skippedFinding?
    muted := found.filterMap Match.mutedFinding?
    passed :=
      (kept.filter fun e => (e.2.answer b input).isPass).map fun e => PassedRule.of e.2.rule
    summary :=
      { resourcePath := target.resourcePath
        iacType := target.iacType
        timestamp := clock.start
        totalPolicies := .ofNat (kept.countP fun e => !(e.2.answer b input).isFailure)
        violatedPolicies := .ofNat violations.length
        low := .ofNat (violations.countP (·.severity = .low))
        medium := .ofNat (violations.countP (·.severity = .medium))
        high := .ofNat (violations.countP (·.severity = .high))
        totalTime := clock.elapsed } }

/-- The summary from which a scan starts: it counts every rule that the scan keeps. -/
def startSummary (rules : List (String × CompiledRule Query)) (target : ScanTarget)
    (clock : ScanClock) : Summary :=
  { Summary.start target clock.start with
    totalPolicies := .ofNat rules.length, totalTime := clock.elapsed }

/-- Every rule fails or does not. -/
theorem countP_isFailure_add (b : Backend Module Query) (input : Json.Value)
    (rules : List (String × CompiledRule Query)) :
    rules.countP (fun e => (e.2.answer b input).isFailure) +
      rules.countP (fun e => !(e.2.answer b input).isFailure) = rules.length := by
  simpa using (List.length_eq_countP_add_countP _ (l := rules)).symm

/-- A scan records the rules that it keeps. -/
theorem evaluate_eq_recordRules (b : Backend Module Query)
    (rules : SortedMap (CompiledRule Query)) {view : ResourceView} {input : Json.Value}
    (h : view.inputDocument = .ok input) (target : ScanTarget) (clock : ScanClock) :
    evaluate b rules view target clock =
      .ok ((Report.start (startSummary (keptRules view.types rules) target clock)).recordRules
        b view input (keptRules view.types rules)) := by
  unfold evaluate
  rw [h]
  rfl

/-- **A scan gives the report that is said list by list.** -/
theorem evaluate_eq_scanReport (b : Backend Module Query)
    (rules : SortedMap (CompiledRule Query)) {view : ResourceView} {input : Json.Value}
    (h : view.inputDocument = .ok input) (target : ScanTarget) (clock : ScanClock) :
    evaluate b rules view target clock = .ok (scanReport b rules view input target clock) := by
  have hcount := countP_isFailure_add b input (keptRules view.types rules)
  have hrest (failures kept : Nat) :
      UInt64.ofNat (failures + kept) - .ofNat failures = .ofNat kept := by
    rw [UInt64.ofNat_add]
    grind
  rw [evaluate_eq_recordRules b rules h, Report.recordRules_eq_extend]
  simp only [Report.extend, Report.start, scanReport, startSummary, Summary.start, Summary.count,
    List.nil_append, UInt64.zero_add, ← hcount, hrest]

end Rulebook
