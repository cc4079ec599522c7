/-
# Overrides are local

Specification §4.5 (Evaluator & Reconciler).

What a resource says of rules and severities decides what becomes of its own matches, and of no
other's. Two graphs that differ only in what the resources at some places say are searched alike:
the backend is asked the same questions, an id is found at the same places, and so the scans meet
the same matches, one by one (`forall₂_alike_placedMatches`). What a match is filed as, under which
severity and with which comment, may differ if its resource stands at one of these places, and not
otherwise (`PlacedMatch.Alike`).

Two resources of a graph may have the same id, and then a match of the one and a match of the other
differ only in their places. A report does not tell places, so what is compared are the matches from
which its lists are filled (`Report.FilledFrom`).
-/

import Rulebook.Proofs.Evaluation.Additive
import Rulebook.Proofs.Resource.Place

namespace Rulebook

variable {Module Query : Type}

/-! ### Findings and their lists -/

/-- The list of a report that holds the findings of a kind. -/
def Report.list (r : Report) : FindingKind → List Violation
  | .active => r.violations
  | .skipped => r.skipped
  | .muted => r.muted

/-- Two findings tell the same but for their severity and their comment. -/
def Violation.SameFacts (v v' : Violation) : Prop :=
  { v with severity := v'.severity, comment := v'.comment } = v'

/-- **Matches are filed once each**: there are as many findings of all kinds as matches. -/
theorem length_filterMap_finding? (ms : List Match) :
    (ms.filterMap (·.finding? .active)).length + (ms.filterMap (·.finding? .skipped)).length +
      (ms.filterMap (·.finding? .muted)).length = ms.length := by
  induction ms with
  | nil => rfl
  | cons m ms ih =>
    have hone := m.countP_isSome_findings
    simp only [Match.finding?, List.length_filterMap_eq_countP] at ih ⊢
    simp only [List.countP_cons, List.countP_nil] at hone ⊢
    rw [List.length_cons]
    omega

/-! ### Matches with their places -/

/-- A match, with the place of its resource in a graph. -/
structure PlacedMatch where
  place : Place
  hit : Match

/-- The resources that a value names in a graph, each with the id that it is named by and with its
place. -/
def ResourceGraph.namedPlaces (g : ResourceGraph) (v : Json.Value) :
    List (String × Place × Resource) :=
  match v.namedId? with
  | none => []
  | some id => (g.placesOf id).map fun e => (id, e.1, e.2)

/-- The matches of a rule in a graph, with their places. -/
def Answer.placedHits (g : ResourceGraph) (key : String) (rule : Rule) (answer : Answer) :
    List PlacedMatch :=
  answer.values.flatMap fun v =>
    (g.namedPlaces v).map fun (id, place, resource) => ⟨place, { key, rule, id, resource }⟩

/-- The matches of several rules in a graph, rule by rule, with their places. -/
def placedMatches (b : Backend Module Query) (g : ResourceGraph) (input : Json.Value)
    (rules : List (String × CompiledRule Query)) : List PlacedMatch :=
  rules.flatMap fun e => (e.2.answer b input).placedHits g e.1 e.2.rule

/-- The matches that a scan of a graph meets, with their places. -/
def ResourceGraph.scannedMatches (g : ResourceGraph) (b : Backend Module Query)
    (rules : SortedMap (CompiledRule Query)) : List PlacedMatch :=
  placedMatches b g g.inputDocument (keptRules g.types rules)

/-- The resources that a value names in a graph are those at the places that it names. -/
theorem named_view (g : ResourceGraph) (v : Json.Value) :
    g.view.named v = (g.namedPlaces v).map fun e => (e.1, e.2.2) := by
  unfold ResourceView.named ResourceGraph.namedPlaces
  rcases v.namedId? with _ | id
  · rfl
  · have hplaces := g.findAllById_eq_placesOf id
    dsimp only [ResourceGraph.view]
    rw [List.map_map]
    rcases hfound : g.findAllById id with e | found
    · rw [hfound] at hplaces
      have hnil : g.placesOf id = [] := List.map_eq_nil_iff.1 hplaces.symm
      rw [hnil]
      rfl
    · rw [hfound] at hplaces
      obtain rfl : found = (g.placesOf id).map (·.2) := hplaces
      exact List.map_map

/-- Without their places, these are the matches of the scan. -/
theorem map_hit_placedMatches (b : Backend Module Query) (g : ResourceGraph) (input : Json.Value)
    (rules : List (String × CompiledRule Query)) :
    (placedMatches b g input rules).map (·.hit) = scanMatches b g.view input rules := by
  rw [placedMatches, scanMatches, List.map_flatMap]
  refine List.flatMap_congr fun e _ => ?_
  rw [Answer.placedHits, Answer.hits, List.map_flatMap]
  refine List.flatMap_congr fun v _ => ?_
  rw [named_view, List.map_map, List.map_map]
  rfl

/-- A backend that gives the same answers on two values gives the same matches. -/
theorem placedMatches_congr (b : Backend Module Query) (g : ResourceGraph)
    {input input' : Json.Value} {rules : List (String × CompiledRule Query)}
    (h : ∀ e ∈ rules, e.2.answer b input = e.2.answer b input') :
    placedMatches b g input rules = placedMatches b g input' rules :=
  List.flatMap_congr fun e he => by rw [h e he]

/-! ### Silencing some places -/

namespace PlacedMatch

/-- The match, whose resource is silent if it stands at one of some places. -/
def silence (changed : Place → Bool) (m : PlacedMatch) : PlacedMatch :=
  ⟨m.place, { m.hit with resource := m.hit.resource.silentAt changed m.place }⟩

/-- Which match it is: the key and the rule, the id by which the resource is named, and the place
where it stands. -/
def origin (m : PlacedMatch) : String × Rule × String × Place :=
  (m.hit.key, m.hit.rule, m.hit.id, m.place)

/-- Both are the match of the same rule with the resource at the same place. They are the same
match, unless this is one of the changed places; and then their findings tell the same, but for
what they are filed as, their severities and their comments. -/
structure Alike (changed : Place → Bool) (m m' : PlacedMatch) : Prop where
  origin_eq : m.origin = m'.origin
  elsewhere : changed m.place = false → m = m'
  sameFacts : ∀ {kind kind' v v'}, m.hit.finding? kind = some v →
    m'.hit.finding? kind' = some v' → v.SameFacts v'

variable {changed : Place → Bool}

/-- Matches that become the same when some places are silenced are alike. -/
theorem alike_of_silence_eq {m m' : PlacedMatch} (h : m.silence changed = m'.silence changed) :
    m.Alike changed m' := by
  obtain ⟨place, key, rule, id, resource⟩ := m
  obtain ⟨place', key', rule', id', resource'⟩ := m'
  simp only [silence, PlacedMatch.mk.injEq, Match.mk.injEq] at h
  obtain ⟨rfl, rfl, rfl, rfl, hresource⟩ := h
  have hsilent : resource.silent = resource'.silent := by
    unfold Resource.silentAt at hresource
    split at hresource
    · exact hresource
    · rw [hresource]
  refine ⟨rfl, fun hplace => ?_, fun {kind kind' v v'} hv hv' => ?_⟩
  · simp only [Resource.silentAt, hplace] at hresource
    rw [show resource = resource' from hresource]
  · have hof (severity : Severity) :
        Violation.of rule resource severity = Violation.of rule resource' severity := by
      show Violation.of rule resource.silent severity = Violation.of rule resource'.silent severity
      rw [hsilent]
    rw [Match.finding?_eq hv, Match.finding?_eq hv']
    show { Violation.of rule resource v'.severity with comment := v'.comment } = _
    rw [hof]

end PlacedMatch

section

variable {changed : Place → Bool}

/-- In a silenced graph, a rule has the silenced matches. -/
theorem placedMatches_silence (b : Backend Module Query) (g : ResourceGraph) (input : Json.Value)
    (rules : List (String × CompiledRule Query)) :
    placedMatches b (g.silence changed) input rules =
      (placedMatches b g input rules).map (PlacedMatch.silence changed) := by
  have hnamed (v : Json.Value) : (g.silence changed).namedPlaces v =
      (g.namedPlaces v).map fun e => (e.1, e.2.1, e.2.2.silentAt changed e.2.1) := by
    unfold ResourceGraph.namedPlaces
    rcases v.namedId? with _ | id
    · rfl
    · dsimp only
      rw [ResourceGraph.silence, ResourceGraph.placesOf_mapAt _ (Resource.id_silentAt changed),
        List.map_map, List.map_map]
      rfl
  rw [placedMatches, placedMatches, List.map_flatMap]
  refine List.flatMap_congr fun e _ => ?_
  rw [Answer.placedHits, Answer.placedHits, List.map_flatMap]
  refine List.flatMap_congr fun v _ => ?_
  rw [hnamed, List.map_map, List.map_map]
  rfl

/-- **In graphs that differ only at some places, the matches are alike**, one by one. -/
theorem forall₂_alike_placedMatches (b : Backend Module Query) {g g' : ResourceGraph}
    (hg : g.DiffersOnlyAt changed g') {input input' : Json.Value}
    {rules : List (String × CompiledRule Query)}
    (h : ∀ e ∈ rules, e.2.answer b input = e.2.answer b input') :
    List.Forall₂ (PlacedMatch.Alike changed) (placedMatches b g input rules)
      (placedMatches b g' input' rules) := by
  have hsilence :
      (placedMatches b g input rules).map (PlacedMatch.silence changed) =
        (placedMatches b g' input' rules).map (PlacedMatch.silence changed) := by
    -- both sides are the matches in one and the same silenced graph
    rw [← placedMatches_silence, hg.silence_eq, placedMatches_congr b _ h, placedMatches_silence]
  rw [← List.forall₂_eq_eq_eq, List.forall₂_map_left_iff, List.forall₂_map_right_iff] at hsilence
  exact hsilence.imp fun _ _ => PlacedMatch.alike_of_silence_eq

/-- The findings of a kind that stem from resources at other than some places. -/
def findingsElsewhere (changed : Place → Bool) (kind : FindingKind) (ms : List PlacedMatch) :
    List Violation :=
  (ms.filter fun m => !changed m.place).filterMap fun m => m.hit.finding? kind

/-- **Matches that are alike have the same findings elsewhere**, since they are the same there. -/
theorem findingsElsewhere_eq {ms ms' : List PlacedMatch}
    (h : List.Forall₂ (PlacedMatch.Alike changed) ms ms') (kind : FindingKind) :
    findingsElsewhere changed kind ms = findingsElsewhere changed kind ms' := by
  unfold findingsElsewhere
  induction h with
  | nil => rfl
  | @cons m m' ms ms' hm _ ih =>
    have hplace : m.place = m'.place := congrArg (fun origin => origin.2.2.2) hm.origin_eq
    rw [List.filter_cons, List.filter_cons, ← hplace]
    rcases hc : changed m.place with _ | _
    · rw [← hm.elsewhere hc]
      simp only [Bool.not_false, if_true, List.filterMap_cons, ih]
    · exact ih

end

/-! ### The reports -/

/-- The lists of findings of a report are filled from matches, in order. -/
def Report.FilledFrom (r : Report) (ms : List PlacedMatch) : Prop :=
  ∀ kind, r.list kind = ms.filterMap fun m => m.hit.finding? kind

/-- A report is filled from the matches at their places. -/
theorem filledFrom_rulesReport (b : Backend Module Query) (g : ResourceGraph) (input : Json.Value)
    (target : ScanTarget) (clock : ScanClock) (rules : List (String × CompiledRule Query)) :
    (rulesReport b g.view input target clock rules).FilledFrom
      (placedMatches b g input rules) := by
  intro kind
  have hmatches := congrArg (List.filterMap (·.finding? kind))
    (map_hit_placedMatches b g input rules)
  rw [List.filterMap_map] at hmatches
  rw [show (placedMatches b g input rules).filterMap (fun m => m.hit.finding? kind) = _
    from hmatches]
  cases kind with
  | active => rfl
  | skipped => rfl
  | muted => rfl

/-- A report has as many findings as the matches that it is filled from. -/
theorem Report.FilledFrom.length_eq {r : Report} {ms : List PlacedMatch} (h : r.FilledFrom ms) :
    r.violations.length + r.skipped.length + r.muted.length = ms.length := by
  have hlength := length_filterMap_finding? (ms.map (·.hit))
  simp only [List.filterMap_map, List.length_map] at hlength
  rw [← hlength]
  exact congrArg₂ _ (congrArg₂ _ (congrArg _ (h .active)) (congrArg _ (h .skipped)))
    (congrArg _ (h .muted))

/-- **Overrides are local.**  Take two graphs that differ only in what the resources at some places
say of rules and severities, and a backend that gives the same answers on both.  Both scans give
reports, with the same passes, the same number of rules and the same number of findings in all.
The reports are filled from alike matches: the same rules and places in the same order, and at the
other places the very same matches, so that each list of findings has the same entries from there
in the same order. -/
theorem evaluate_overrides_local (b : Backend Module Query)
    (rules : SortedMap (CompiledRule Query)) (target : ScanTarget) (clock clock' : ScanClock)
    {changed : Place → Bool} {g g' : ResourceGraph} (hg : g.DiffersOnlyAt changed g')
    (hb : ∀ e ∈ rules.entries,
      e.2.answer b g.inputDocument = e.2.answer b g'.inputDocument) :
    ∃ r r', evaluate b rules g.view target clock = .ok r ∧
      evaluate b rules g'.view target clock' = .ok r' ∧
      r.FilledFrom (g.scannedMatches b rules) ∧ r'.FilledFrom (g'.scannedMatches b rules) ∧
      r.passed = r'.passed ∧ r.summary.totalPolicies = r'.summary.totalPolicies ∧
      (g.scannedMatches b rules).map PlacedMatch.origin =
        (g'.scannedMatches b rules).map PlacedMatch.origin ∧
      r.violations.length + r.skipped.length + r.muted.length =
        r'.violations.length + r'.skipped.length + r'.muted.length ∧
      (∀ kind, findingsElsewhere changed kind (g.scannedMatches b rules) =
        findingsElsewhere changed kind (g'.scannedMatches b rules)) ∧
      List.Forall₂ (PlacedMatch.Alike changed) (g.scannedMatches b rules)
        (g'.scannedMatches b rules) := by
  have hkept : ∀ e ∈ keptRules g.types rules,
      e.2.answer b g.inputDocument = e.2.answer b g'.inputDocument :=
    fun e he => hb e (List.mem_filter.1 he).1
  have hrules : keptRules g'.types rules = keptRules g.types rules := by rw [hg.types_eq]
  have halike : List.Forall₂ (PlacedMatch.Alike changed) (g.scannedMatches b rules)
      (g'.scannedMatches b rules) := by
    rw [ResourceGraph.scannedMatches, ResourceGraph.scannedMatches, hrules]
    exact forall₂_alike_placedMatches b hg hkept
  have hfilled := filledFrom_rulesReport b g g.inputDocument target clock
    (keptRules g.types rules)
  have hfilled' := filledFrom_rulesReport b g' g'.inputDocument target clock'
    (keptRules g'.types rules)
  refine ⟨_, _, evaluate_eq_rulesReport b rules rfl target clock,
    evaluate_eq_rulesReport b rules rfl target clock', hfilled, hfilled', ?_, ?_, ?_, ?_, ?_,
    halike⟩
  -- neither passes nor the count of rules depend on more than the answers
  · show ((keptRules g.types rules).filter _).map _ = ((keptRules g'.types rules).filter _).map _
    rw [hrules]
    exact congrArg (List.map _) (List.filter_congr fun e he => by rw [hkept e he])
  · show UInt64.ofNat ((keptRules g.types rules).countP _) =
      .ofNat ((keptRules g'.types rules).countP _)
    rw [hrules]
    exact congrArg UInt64.ofNat (List.countP_congr fun e he => by rw [hkept e he])
  · rw [← List.forall₂_eq_eq_eq, List.forall₂_map_left_iff, List.forall₂_map_right_iff]
    exact halike.imp fun _ _ hm => hm.origin_eq
  · exact hfilled.length_eq.trans (halike.length_eq.trans hfilled'.length_eq.symm)
  · exact fun kind => findingsElsewhere_eq halike kind

/-! ### Two resources with one id -/

namespace Twins

/-- A graph of two resources with the same id, from different files. -/
def graph : ResourceGraph :=
  ResourceGraph.empty.add "bucket"
    [ { Resource.ofTypeName "bucket" "a" with source := "first.tf" },
      { Resource.ofTypeName "bucket" "a" with source := "second.tf" } ]

/-- The place of the first one. -/
def first (place : Place) : Bool := place = ⟨"bucket", 0⟩

/-- The first resource has a directive for the rule that finds them both. -/
def skipping (place : Place) (r : Resource) : Resource :=
  if first place then { r with skipRules := [⟨"loud", "known"⟩] } else r

/-- The hypotheses of `evaluate_overrides_local` are satisfiable: both resources are found under
their id, and the directive of the first moves one of two findings to the skipped ones. -/
theorem evaluate_overrides_local_twins :
    graph.DiffersOnlyAt first (graph.mapAt skipping) ∧
      (∀ e ∈ ThreeRules.rules.entries, e.2.answer ThreeRules.backend graph.inputDocument =
        e.2.answer ThreeRules.backend (graph.mapAt skipping).inputDocument) ∧
      ∃ r r', evaluate ThreeRules.backend ThreeRules.rules graph.view {} ⟨⟨0, 0⟩, .zero⟩ = .ok r ∧
        evaluate ThreeRules.backend ThreeRules.rules (graph.mapAt skipping).view {}
          ⟨⟨1, 0⟩, .zero⟩ = .ok r' ∧
        r.violations.length = 2 ∧ r.skipped.length = 0 ∧
        r'.violations.length = 1 ∧ r'.skipped.length = 1 ∧
        r.passed = r'.passed ∧ r.summary.totalPolicies = r'.summary.totalPolicies ∧
        (findingsElsewhere first .active
          (graph.scannedMatches ThreeRules.backend ThreeRules.rules)).length = 1 ∧
        findingsElsewhere first .active (graph.scannedMatches ThreeRules.backend ThreeRules.rules) =
          findingsElsewhere first .active
            ((graph.mapAt skipping).scannedMatches ThreeRules.backend ThreeRules.rules) := by
  have hg : graph.DiffersOnlyAt first (graph.mapAt skipping) := by
    refine ResourceGraph.differsOnlyAt_mapAt (fun place r hplace => ?_) (fun place r => ?_) graph
    · rw [skipping, hplace]
      rfl
    · unfold skipping
      split
      · rfl
      · rfl
  have hb : ∀ e ∈ ThreeRules.rules.entries, e.2.answer ThreeRules.backend graph.inputDocument =
      e.2.answer ThreeRules.backend (graph.mapAt skipping).inputDocument := fun _ _ => rfl
  obtain ⟨r, r', hr, hr', -, -, hpassed, htotal, -, -, helsewhere, -⟩ :=
    evaluate_overrides_local ThreeRules.backend ThreeRules.rules {} ⟨⟨0, 0⟩, .zero⟩
      ⟨⟨1, 0⟩, .zero⟩ hg hb
  have hreport := Except.ok.inj (hr.symm.trans
    (evaluate_eq_scanReport ThreeRules.backend ThreeRules.rules rfl {} ⟨⟨0, 0⟩, .zero⟩))
  have hreport' := Except.ok.inj (hr'.symm.trans
    (evaluate_eq_scanReport ThreeRules.backend ThreeRules.rules rfl {} ⟨⟨1, 0⟩, .zero⟩))
  refine ⟨hg, hb, r, r', hr, hr', ?_, ?_, ?_, ?_, hpassed, htotal, by decide, helsewhere .active⟩
  · rw [hreport]
    decide
  · rw [hreport]
    decide
  · rw [hreport']
    decide
  · rw [hreport']
    decide

end Twins

end Rulebook
