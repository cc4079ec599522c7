/-
# The matches of a scan

Specification §4.5 (Evaluator & Reconciler).

A scan goes through rules, through the values that the backend gives for each, and through
the resources that each value names. `scanMatches` lists what it meets on the way, as one
sequence: a `Match` for every rule, id and resource, in the order in which they are met. A
value that is no identifier, an id that cannot be looked up and an id without resources
add nothing to it.

What becomes of a match is said by three partial findings, of which a match has exactly
one (`Match.countP_isSome_findings`): a skipped one where a directive names the rule, a
muted one where none does and the resource mutes its findings, and an active one otherwise.
Whichever it is, it copies what the rule and the resource say (`Match.finding?_eq`).
-/

import Rulebook.Evaluation

namespace Rulebook

/-! ### What a scan meets -/

/-- The id that a value gives: a text itself, or the text under `Id` in an object. -/
def Json.Value.namedId? (v : Json.Value) : Option String :=
  match v.json with
  | .string id => some id
  | .object fields =>
    match lookupEntry "Id" fields with
    | some (.string id) => some id
    | _ => none
  | _ => none

/-- The resources that a value names, each with the id that it is named by. -/
def ResourceView.named (view : ResourceView) (v : Json.Value) : List (String × Resource) :=
  match v.namedId? with
  | none => []
  | some id =>
    match view.findAllById id with
    | .error _ => []
    | .ok found => found.map fun resource => (id, resource)

/-- A rule that is active under a key matches a resource that is named by an id. -/
structure Match where
  key : String
  rule : Rule
  id : String
  resource : Resource

/-- What a backend says of a rule. -/
abbrev Answer := Except BackendError (List Json.Value)

namespace Answer

/-- The backend failed. -/
def isFailure : Answer → Bool
  | .error _ => true
  | .ok _ => false

/-- No resource violates the rule. -/
def isPass : Answer → Bool
  | .ok [] => true
  | _ => false

/-- The backend gave values, at least one. -/
def isFinding : Answer → Bool
  | .ok (_ :: _) => true
  | _ => false

/-- The values that the backend gave. -/
def values : Answer → List Json.Value
  | .error _ => []
  | .ok values => values

@[simp] theorem isFailure_error (e : BackendError) : isFailure (.error e) = true := rfl

@[simp] theorem isFailure_ok (vs : List Json.Value) : isFailure (.ok vs) = false := rfl

@[simp] theorem isPass_error (e : BackendError) : isPass (.error e) = false := rfl

@[simp] theorem isPass_ok (vs : List Json.Value) : isPass (.ok vs) = vs.isEmpty := by
  cases vs <;> rfl

@[simp] theorem isFinding_error (e : BackendError) : isFinding (.error e) = false := rfl

@[simp] theorem isFinding_ok (vs : List Json.Value) : isFinding (.ok vs) = !vs.isEmpty := by
  cases vs <;> rfl

/-- The matches of a rule. -/
def hits (view : ResourceView) (key : String) (rule : Rule) (answer : Answer) : List Match :=
  answer.values.flatMap fun v =>
    (view.named v).map fun (id, resource) => { key, rule, id, resource }

end Answer

section

variable {Module Query : Type}

/-- What a backend says of a compiled rule, on the value of a scan. -/
def CompiledRule.answer (c : CompiledRule Query) (b : Backend Module Query)
    (input : Json.Value) : Answer :=
  b.evaluate c.query input

/-- The matches of several rules, rule by rule. -/
def scanMatches (b : Backend Module Query) (view : ResourceView) (input : Json.Value)
    (rules : List (String × CompiledRule Query)) : List Match :=
  rules.flatMap fun e => (e.2.answer b input).hits view e.1 e.2.rule

/-- The matches of a rule come before those of the rules behind it. -/
theorem scanMatches_cons (b : Backend Module Query) (view : ResourceView) (input : Json.Value)
    (e : String × CompiledRule Query) (rules : List (String × CompiledRule Query)) :
    scanMatches b view input (e :: rules) =
      (e.2.answer b input).hits view e.1 e.2.rule ++ scanMatches b view input rules :=
  List.flatMap_cons

end

/-! ### What becomes of a match -/

/-- What a match is filed as. -/
inductive FindingKind where
  | active
  | skipped
  | muted
deriving DecidableEq, Repr

namespace Match

/-- The directive of the resource that names the rule. -/
def directive? (m : Match) : Option SkipRule := (m.resource.findSkipRule m.rule m.key).found

/-- The finding under a directive: it carries the directive's comment. -/
def skippedFinding? (m : Match) : Option Violation :=
  m.directive?.map fun s => (Violation.of m.rule m.resource m.rule.severity).withComment s.comment

/-- The finding on a resource that mutes its findings and has no directive for the rule. -/
def mutedFinding? (m : Match) : Option Violation :=
  if m.directive? = none ∧ m.resource.maxSeverity = some .mute then
    some (Violation.of m.rule m.resource m.rule.severity)
  else none

/-- The finding that counts: its severity is the rule's within the resource's bounds. -/
def activeFinding? (m : Match) : Option Violation :=
  if m.directive? = none ∧ m.resource.maxSeverity ≠ some .mute then
    (m.resource.resolveSeverity m.rule.severity).map (Violation.of m.rule m.resource)
  else none

/-- The finding of a match as one of a kind. -/
def finding? (m : Match) : FindingKind → Option Violation
  | .active => m.activeFinding?
  | .skipped => m.skippedFinding?
  | .muted => m.mutedFinding?

/-- A finding tells what its rule and its resource say, with a severity and a comment. -/
theorem finding?_eq {m : Match} {kind : FindingKind} {v : Violation}
    (h : m.finding? kind = some v) :
    v = { Violation.of m.rule m.resource v.severity with comment := v.comment } := by
  cases kind with
  | active =>
    have h : m.activeFinding? = some v := h
    unfold activeFinding? at h
    split at h
    · obtain ⟨severity, -, rfl⟩ := Option.map_eq_some_iff.1 h
      rfl
    · cases h
  | skipped =>
    have h : m.skippedFinding? = some v := h
    obtain ⟨directive, -, rfl⟩ := Option.map_eq_some_iff.1 h
    rfl
  | muted =>
    have h : m.mutedFinding? = some v := h
    unfold mutedFinding? at h
    split at h
    · obtain rfl := Option.some.inj h
      rfl
    · cases h

end Match

/-- A resource has no severity for a rule exactly if it is muted. -/
theorem Resource.resolveSeverity_eq_none_iff (r : Resource) (severity : Severity) :
    r.resolveSeverity severity = none ↔ r.maxSeverity = some .mute := by
  unfold resolveSeverity
  rcases r.maxSeverity with _ | _ | _ <;> simp

namespace Match

/-- **A match has exactly one finding.** -/
theorem countP_isSome_findings (m : Match) :
    [m.skippedFinding?, m.mutedFinding?, m.activeFinding?].countP Option.isSome = 1 := by
  rcases hd : m.directive? with _ | s
  · by_cases hm : m.resource.maxSeverity = some .mute
    · simp [skippedFinding?, mutedFinding?, activeFinding?, hd, hm]
    · obtain ⟨severity, hs⟩ := Option.ne_none_iff_exists'.1
        (mt (m.resource.resolveSeverity_eq_none_iff m.rule.severity).1 hm)
      simp [skippedFinding?, mutedFinding?, activeFinding?, hd, hm, hs]
  · simp [skippedFinding?, mutedFinding?, activeFinding?, hd]

end Match

end Rulebook
