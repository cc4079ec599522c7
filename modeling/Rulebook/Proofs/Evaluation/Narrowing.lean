/-
# Narrowing a scan

Specification §4.4 (PreScan Filter).

A scan leaves out the rules that are not relevant to its resource types. `evaluateAll` leaves
out none. Of a graph both give the same findings, provided that what the backend names for a
rule with a resource type are ids of that type (`Answer.NamesOwnType`); of the passes, a
narrowed scan keeps those of relevant rules.

A rule that is left out has a resource type, and the graph has not
(`not_mem_types_of_not_relevant`).
An id is looked up under the type in front of its first dot, so the ids of such a rule find
nothing (`named_eq_nil_of_typePart`), and a rule without matches adds nothing to the matches of a
scan (`scanMatches_keptRules`). A rule that is left out but names ids of other types may have
matches; an id without a dot is never found, so the proviso says nothing of it.
-/

import Rulebook.Proofs.Evaluation.Additive
import Rulebook.Proofs.Rule.Selection

namespace Rulebook

variable {Module Query : Type}

/-! ### A scan without narrowing -/

/-- The report of a scan that evaluates every rule of a map. -/
def evaluateAll (b : Backend Module Query) (rules : SortedMap (CompiledRule Query))
    (view : ResourceView) (target : ScanTarget) (clock : ScanClock) :
    Except ResourceError Report :=
  match view.inputDocument with
  | .error e => .error e
  | .ok input =>
    .ok ((Report.start (startSummary rules.entries target clock)).recordRules b view input
      rules.entries)

/-- A collection as a scan sees it that is not told the types. -/
def ResourceView.untyped (view : ResourceView) : ResourceView := { view with types := [] }

/-- Without resource types every rule is kept. -/
theorem keptRules_nil (rules : SortedMap (CompiledRule Query)) :
    keptRules [] rules = rules.entries :=
  List.filter_eq_self.2 fun _ _ => rfl

/-- A collection that declares no types is scanned without narrowing. -/
theorem evaluateAll_eq_evaluate (b : Backend Module Query)
    (rules : SortedMap (CompiledRule Query)) (view : ResourceView) (target : ScanTarget)
    (clock : ScanClock) :
    evaluateAll b rules view target clock =
      evaluate b rules view.untyped target clock := by
  have hall : relevantRules view.untyped.types rules = rules := SortedMap.ext (keptRules_nil rules)
  unfold evaluateAll evaluate
  simp only [hall]
  rfl

/-- Without a selection of rules the report is that of all of them. -/
theorem evaluateAll_eq_rulesReport (b : Backend Module Query)
    (rules : SortedMap (CompiledRule Query)) {view : ResourceView} {input : Json.Value}
    (h : view.inputDocument = .ok input) (target : ScanTarget) (clock : ScanClock) :
    evaluateAll b rules view target clock =
      .ok (rulesReport b view input target clock rules.entries) := by
  have hin : view.untyped.inputDocument = .ok input := h
  have htypes : view.untyped.types = [] := rfl
  rw [evaluateAll_eq_evaluate, evaluate_eq_rulesReport b rules hin, htypes, keptRules_nil]
  rfl

/-! ### Ids of a type -/

/-- The part of an id before its first dot, or all of it where there is none. -/
def Resource.typePart (id : String) : String := String.ofList (id.toList.takeWhile (· != '.'))

/-- An id that can be split has a dot, and its type is the part before the first one. -/
theorem Resource.typePart_of_splitId?_eq_some {id type name : String}
    (h : splitId? id = some (type, name)) : '.' ∈ id.toList ∧ typePart id = type := by
  unfold splitId? at h
  dsimp only at h
  split at h
  · cases h
  · rename_i dot rest hdrop
    split at h
    · cases h
    · have hmem : dot ∈ id.toList :=
        (List.dropWhile_sublist _).subset (hdrop ▸ List.mem_cons_self)
      have hhead := List.head?_dropWhile_not (· != '.') id.toList
      rw [hdrop] at hhead
      obtain rfl : dot = '.' := by simpa using hhead
      obtain ⟨rfl, -⟩ := Prod.mk.inj (Option.some.inj h)
      exact ⟨hmem, rfl⟩

/-- The ids that a backend names for a rule with a resource type are ids of that type. -/
def Answer.NamesOwnType (answer : Answer) (rule : Rule) : Prop :=
  rule.resourceType ≠ "" →
    ∀ v ∈ answer.values, ∀ id ∈ v.namedId?, '.' ∈ id.toList →
      Resource.typePart id = rule.resourceType

instance (answer : Answer) (rule : Rule) : Decidable (answer.NamesOwnType rule) := by
  unfold Answer.NamesOwnType
  infer_instance

/-! ### Rules that are left out -/

namespace ResourceGraph

variable {g : ResourceGraph}

/-- A value that names no id of the graph's types names nothing. -/
theorem named_eq_nil_of_typePart {v : Json.Value}
    (h : ∀ id ∈ v.namedId?, '.' ∈ id.toList → Resource.typePart id ∉ g.types) :
    g.view.named v = [] := by
  unfold ResourceView.named
  rcases hid : v.namedId? with _ | id
  · rfl
  · dsimp only [view]
    unfold findAllById
    rcases hsplit : Resource.splitId? id with _ | ⟨type, name⟩
    · rfl
    · obtain ⟨hdot, htype⟩ := Resource.typePart_of_splitId?_eq_some hsplit
      have hout : type ∉ g.types := htype ▸ h id hid hdot
      have hnone : g.get? type = none := SortedMap.get?_eq_none_iff.2 hout
      dsimp only
      rw [hnone]
      rfl

end ResourceGraph

/-- A rule that is left out has a resource type, which is none of those it is left out for. -/
theorem Rule.not_mem_types_of_not_relevant {types : List String} {rule : Rule}
    (h : ¬ rule.relevant types = true) : rule.resourceType ≠ "" ∧ rule.resourceType ∉ types := by
  rw [relevant_iff] at h
  push Not at h
  obtain ⟨hne, hnone⟩ := h
  obtain ⟨type, htype⟩ := List.exists_mem_of_ne_nil _ hne
  refine ⟨fun hempty => hnone type htype (.inl hempty), fun hmem => ?_⟩
  exact hnone _ hmem (.inr (.inr rfl))

/-- A rule that is left out has no matches. -/
theorem Answer.hits_eq_nil_of_not_relevant {g : ResourceGraph} {answer : Answer} {rule : Rule}
    (key : String) (hown : answer.NamesOwnType rule) (h : ¬ rule.relevant g.types = true) :
    answer.hits g.view key rule = [] := by
  obtain ⟨hne, hout⟩ := Rule.not_mem_types_of_not_relevant h
  refine List.flatMap_eq_nil_iff.2 fun v hv => ?_
  have hnamed : g.view.named v = [] := by
    refine ResourceGraph.named_eq_nil_of_typePart fun id hid hdot => ?_
    rw [hown hne v hv id hid hdot]
    exact hout
  rw [hnamed]
  rfl

/-- What gives nothing can be left out. -/
theorem flatMap_filter_of_eq_nil {α : Type u} {β : Type v} {p : α → Bool} {f : α → List β}
    {l : List α} (h : ∀ a ∈ l, ¬ p a = true → f a = []) : (l.filter p).flatMap f = l.flatMap f := by
  induction l with
  | nil => rfl
  | cons a rest ih =>
    have hrest := ih fun c hc => h c (List.mem_cons_of_mem _ hc)
    rw [List.flatMap_cons]
    by_cases hp : p a = true
    · rw [List.filter_cons_of_pos hp, List.flatMap_cons, hrest]
    · rw [List.filter_cons_of_neg hp, h a List.mem_cons_self hp, List.nil_append, hrest]

/-- **The rules that are left out add nothing to the matches of a scan.** -/
theorem scanMatches_keptRules {b : Backend Module Query} {g : ResourceGraph} {input : Json.Value}
    {rules : SortedMap (CompiledRule Query)}
    (h : ∀ e ∈ rules.entries, (e.2.answer b input).NamesOwnType e.2.rule) :
    scanMatches b g.view input (keptRules g.types rules) =
      scanMatches b g.view input rules.entries :=
  flatMap_filter_of_eq_nil fun e he hp => Answer.hits_eq_nil_of_not_relevant e.1 (h e he) hp

/-! ### Narrowing keeps the findings -/

/-- Two reports have the same findings and count them alike. -/
structure Report.SameMatches (r r' : Report) : Prop where
  violations : r.violations = r'.violations
  skipped : r.skipped = r'.skipped
  muted : r.muted = r'.muted
  violatedPolicies : r.summary.violatedPolicies = r'.summary.violatedPolicies
  low : r.summary.low = r'.summary.low
  medium : r.summary.medium = r'.summary.medium
  high : r.summary.high = r'.summary.high

/-- **Narrowing a scan changes no finding.**  If the ids that the backend names for a rule with
a resource type are ids of that type, a scan of a graph has the findings that it would have if
it evaluated every rule; and where that would report the rules without values as passes, the
scan reports those of them that are relevant, in the same order. -/
theorem evaluate_narrowed (b : Backend Module Query) (rules : SortedMap (CompiledRule Query))
    (g : ResourceGraph) (target : ScanTarget) (clock clock' : ScanClock)
    (h : ∀ e ∈ rules.entries, (e.2.answer b g.inputDocument).NamesOwnType e.2.rule) :
    let passing :=
      (rules.entries.filter fun e => (e.2.answer b g.inputDocument).isPass).map (·.2.rule)
    ∃ r all, evaluate b rules g.view target clock = .ok r ∧
      evaluateAll b rules g.view target clock' = .ok all ∧
      r.SameMatches all ∧
      all.passed = passing.map PassedRule.of ∧
      r.passed = (passing.filter fun rule => rule.relevant g.types).map PassedRule.of := by
  intro passing
  have hin : g.view.inputDocument = .ok g.inputDocument := rfl
  have hmatches : scanMatches b g.view g.inputDocument (keptRules g.view.types rules) =
      scanMatches b g.view g.inputDocument rules.entries := scanMatches_keptRules h
  refine ⟨_, _, evaluate_eq_rulesReport b rules hin target clock,
    evaluateAll_eq_rulesReport b rules hin target clock', ?_, ?_, ?_⟩
  · constructor <;> simp only [rulesReport, hmatches]
  · simp only [rulesReport, passing, List.map_map, Function.comp_def]
  · simp only [rulesReport, passing, keptRules, List.filter_map, List.map_map, Function.comp_def]
    rw [List.filter_comm]
    rfl

/-! ### A rule for another type -/

namespace TypedRules

/-- A rule that is known by one word and is for a resource type. -/
def compiled (word type : String) : CompiledRule String :=
  let rule : Rule :=
    { name := word, file := word, templateArgs := .empty, severity := .low, description := "",
      referenceId := word, category := "", version := 1, id := "", resourceType := type,
      policyType := "" }
  { loaded := { rule, body := "", bodyPath := ⟨""⟩ }, query := word }

/-- A rule for all types, one for buckets, and two for roles. -/
def rules : SortedMap (CompiledRule String) :=
  .ofList
    [ ("any", compiled "any" ""), ("bucket", compiled "bucket" "bucket"),
      ("idle", compiled "idle" "role"), ("role", compiled "role" "role") ]

/-- A backend that names buckets, roles and a word without a dot. -/
def backend : Backend Unit String where
  compile _ _ := .ok ()
  prepare _ path := .ok path
  evaluate query _ :=
    .ok <|
      if query = "idle" then []
      else if query = "role" then [.string "role.admin", .string "nobody"]
      else [.string "bucket.a", .null, .string "bucket.b"]

/-- The hypothesis of `evaluate_narrowed` is satisfiable: in a graph of one bucket, the two
rules for roles are left out, one of which would pass and the other of which names ids. -/
theorem evaluate_narrowed_typedRules :
    (∀ e ∈ rules.entries,
        (e.2.answer backend ThreeRules.graph.inputDocument).NamesOwnType e.2.rule) ∧
      ∃ r all, evaluate backend rules ThreeRules.graph.view {} ⟨⟨0, 0⟩, .zero⟩ = .ok r ∧
        evaluateAll backend rules ThreeRules.graph.view {} ⟨⟨0, 0⟩, .zero⟩ = .ok all ∧
        r.violations.length = 2 ∧ r.SameMatches all ∧ all.passed.length = 1 ∧ r.passed = [] := by
  have hown : ∀ e ∈ rules.entries,
      (e.2.answer backend ThreeRules.graph.inputDocument).NamesOwnType e.2.rule := by decide
  have hin : ThreeRules.graph.view.inputDocument = .ok ThreeRules.graph.inputDocument := rfl
  obtain ⟨r, all, hr, hall, hsame, hpassed, hkept⟩ :=
    evaluate_narrowed backend rules ThreeRules.graph {} ⟨⟨0, 0⟩, .zero⟩ ⟨⟨0, 0⟩, .zero⟩ hown
  have hreport := evaluate_eq_rulesReport backend rules hin {} ⟨⟨0, 0⟩, .zero⟩
  refine ⟨hown, r, all, hr, hall, ?_, hsame, ?_, ?_⟩
  · rw [Except.ok.inj (hr.symm.trans hreport)]
    decide
  · rw [hpassed]
    decide
  · rw [hkept]
    decide

end TypedRules

end Rulebook
