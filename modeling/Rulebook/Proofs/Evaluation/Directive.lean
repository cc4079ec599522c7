/-
# The directive that counts

Specification §4.5 (Evaluator & Reconciler).

A resource may have any number of directives, and several of them may name one rule, by its id or
by the key under which it is active. Which one counts is said by `SkipRule.Directs`: the first by
the id, wherever it stands, before the first by the key. Ids and keys are compared up to the case
of ASCII letters, and an empty id names no rule.

A search that keeps this order (`Resource.findSkipRule_eq_iff`) depends only on the directives that
concern the rule, in their order (`Resource.findSkipRule_filter`). How these and the names of the
rule are spelled does not matter either, since the search stops at the same place among respelled
directives (`Resource.findSkipRule_respelled`). The severity bounds of the resource have no say in
it, they decide only what becomes of a match without a directive.
-/

import Rulebook.Disposition
import Rulebook.Proofs.Text.AsciiCase

namespace Rulebook

/-! ### Which directive counts -/

/-- The first element of a list with a property. -/
def IsFirst {α : Type u} (p : α → Prop) (l : List α) (a : α) : Prop :=
  ∃ before after, l = before ++ a :: after ∧ p a ∧ ∀ b ∈ before, ¬ p b

/-- The first element with a property is an element. -/
theorem IsFirst.mem {α : Type u} {p : α → Prop} {l : List α} {a : α} (h : IsFirst p l a) :
    a ∈ l := by
  obtain ⟨before, after, rfl, -⟩ := h
  exact List.mem_append_right _ (List.mem_cons_self ..)

/-- The first element with a property has it. -/
theorem IsFirst.holds {α : Type u} {p : α → Prop} {l : List α} {a : α} (h : IsFirst p l a) :
    p a := by
  obtain ⟨before, after, -, ha, -⟩ := h
  exact ha

/-- The first element with a property is the one that is found. -/
theorem isFirst_iff_find? {α : Type u} {p : α → Prop} [DecidablePred p] {l : List α} {a : α} :
    IsFirst p l a ↔ l.find? (fun b => p b) = some a := by
  rw [List.find?_eq_some_iff_append, IsFirst]
  simp only [decide_eq_true_eq, Bool.not_eq_eq_eq_not, Bool.not_true, decide_eq_false_iff_not]
  constructor
  · rintro ⟨before, after, hsplit, ha, hbefore⟩
    exact ⟨ha, before, after, hsplit, hbefore⟩
  · rintro ⟨ha, before, after, hsplit, hbefore⟩
    exact ⟨before, after, hsplit, ha, hbefore⟩

namespace SkipRule

/-- A directive names an id, which is not empty. -/
def NamesId (s : SkipRule) (id : String) : Prop := id ≠ "" ∧ Text.Recased s.rule id

/-- A directive names a key. -/
def NamesKey (s : SkipRule) (key : String) : Prop := Text.Recased s.rule key

/-- A directive names a rule that is active under a key. -/
def Concerns (s : SkipRule) (rule : Rule) (key : String) : Prop :=
  s.NamesId rule.id ∨ s.NamesKey key

instance (s : SkipRule) (id : String) : Decidable (s.NamesId id) :=
  inferInstanceAs (Decidable (_ ∧ _))

instance (s : SkipRule) (key : String) : Decidable (s.NamesKey key) :=
  inferInstanceAs (Decidable (Text.Recased _ _))

instance (s : SkipRule) (rule : Rule) (key : String) : Decidable (s.Concerns rule key) :=
  inferInstanceAs (Decidable (_ ∨ _))

/-- The same directive, its name spelled in other letter case. -/
def Respelled (s s' : SkipRule) : Prop := Text.Recased s.rule s'.rule ∧ s.comment = s'.comment

/-- What a search for a rule among some directives comes to. -/
inductive Directs (directives : List SkipRule) (rule : Rule) (key : String) : Search → Prop
  | byId {s : SkipRule} (h : IsFirst (·.NamesId rule.id) directives s) :
      Directs directives rule key ⟨some s, 0⟩
  | byKey {s : SkipRule} (hid : ∀ t ∈ directives, ¬ t.NamesId rule.id)
      (h : IsFirst (·.NamesKey key) directives s) : Directs directives rule key ⟨some s, 1⟩
  | none (h : ∀ t ∈ directives, ¬ t.Concerns rule key) : Directs directives rule key ⟨none, 0⟩

/-- A directive names a rule in whatever letter case. -/
theorem names_iff {s : SkipRule} {name : String} :
    s.names name = true ↔ Text.Recased s.rule name :=
  Text.eqIgnoreAsciiCase_iff

/-- The search that has a directive by the id, or else one by the key, if there are any. -/
def Search.prefer : Option SkipRule → Option SkipRule → Search
  | some s, _ => ⟨some s, 0⟩
  | none, some s => ⟨some s, 1⟩
  | none, none => ⟨none, 0⟩

end SkipRule

/-! ### The search -/

namespace Resource

variable {r : Resource} {rule : Rule} {key : String}

/-- The first directive by a key. -/
def skipByKey (r : Resource) (key : String) : Option SkipRule :=
  r.skipRules.find? fun s => s.NamesKey key

/-- Looking for an id finds the first directive that names it. -/
theorem skipById_eq (r : Resource) (id : String) :
    r.skipById id = r.skipRules.find? fun s => s.NamesId id := by
  unfold skipById
  split
  · rename_i hempty
    exact (List.find?_eq_none.2 fun s _ => by simp [SkipRule.NamesId, hempty]).symm
  · rename_i hne
    congr
    funext s
    rw [Bool.eq_iff_iff, decide_eq_true_eq, SkipRule.names_iff]
    exact ⟨fun h => ⟨hne, h⟩, And.right⟩

/-- The directive under the id counts before the one under the key. -/
theorem findSkipRule_eq_prefer (r : Resource) (rule : Rule) (key : String) :
    r.findSkipRule rule key = .prefer (r.skipById rule.id) (r.skipByKey key) := by
  have hkey : (r.skipRules.find? fun s => s.names key) = r.skipByKey key := by
    unfold skipByKey
    congr
    funext s
    rw [Bool.eq_iff_iff, decide_eq_true_eq]
    exact SkipRule.names_iff
  rw [findSkipRule, hkey]
  rcases r.skipById rule.id with _ | s
  · rcases r.skipByKey key with _ | s <;> rfl
  · rfl

/-- What is found under an id is the first directive that names it. -/
theorem skipById_eq_some_iff {id : String} {s : SkipRule} :
    r.skipById id = some s ↔ IsFirst (·.NamesId id) r.skipRules s := by
  rw [skipById_eq, isFirst_iff_find?]

/-- Nothing is found under an id that no directive names. -/
theorem skipById_eq_none_iff {id : String} :
    r.skipById id = none ↔ ∀ s ∈ r.skipRules, ¬ s.NamesId id := by
  rw [skipById_eq, List.find?_eq_none]
  simp only [decide_eq_true_eq]

/-- What is found under a key is the first directive that names it. -/
theorem skipByKey_eq_some_iff {s : SkipRule} :
    r.skipByKey key = some s ↔ IsFirst (·.NamesKey key) r.skipRules s :=
  isFirst_iff_find?.symm

/-- Nothing is found under a key that no directive names. -/
theorem skipByKey_eq_none_iff :
    r.skipByKey key = none ↔ ∀ s ∈ r.skipRules, ¬ s.NamesKey key := by
  rw [skipByKey, List.find?_eq_none]
  simp only [decide_eq_true_eq]

/-- **A search comes to what the order of directives says, and to nothing else.** -/
theorem findSkipRule_eq_iff {found : SkipRule.Search} :
    r.findSkipRule rule key = found ↔ SkipRule.Directs r.skipRules rule key found := by
  rw [findSkipRule_eq_prefer]
  constructor
  · rintro rfl
    rcases hid : r.skipById rule.id with _ | s
    · rw [skipById_eq_none_iff] at hid
      rcases hkey : r.skipByKey key with _ | s
      · rw [skipByKey_eq_none_iff] at hkey
        exact .none fun t ht => not_or.2 ⟨hid t ht, hkey t ht⟩
      · exact .byKey hid (skipByKey_eq_some_iff.1 hkey)
    · exact .byId (skipById_eq_some_iff.1 hid)
  · intro h
    cases h with
    | byId h => rw [skipById_eq_some_iff.2 h]; rfl
    | byKey hid h => rw [skipById_eq_none_iff.2 hid, skipByKey_eq_some_iff.2 h]; rfl
    | none h =>
      rw [skipById_eq_none_iff.2 fun t ht => (not_or.1 (h t ht)).1,
        skipByKey_eq_none_iff.2 fun t ht => (not_or.1 (h t ht)).2]
      rfl

/-- A directive is found if some directive concerns the rule. -/
theorem exists_found_iff :
    (∃ s, (r.findSkipRule rule key).found = some s) ↔
      ∃ s ∈ r.skipRules, s.Concerns rule key := by
  generalize hfound : r.findSkipRule rule key = found
  cases findSkipRule_eq_iff.1 hfound with
  | byId h => exact iff_of_true ⟨_, rfl⟩ ⟨_, h.mem, .inl h.holds⟩
  | byKey hid h => exact iff_of_true ⟨_, rfl⟩ ⟨_, h.mem, .inr h.holds⟩
  | none h => simpa using h

/-! ### What the search does not depend on -/

/-- **Only the directives that concern a rule count.** -/
theorem findSkipRule_filter (r : Resource) (rule : Rule) (key : String) :
    { r with skipRules := r.skipRules.filter (·.Concerns rule key) }.findSkipRule rule key =
      r.findSkipRule rule key := by
  have hfilter (p : SkipRule → Prop) [DecidablePred p] (hp : ∀ s, p s → s.Concerns rule key) :
      (r.skipRules.filter (·.Concerns rule key)).find? (fun s => p s) =
        r.skipRules.find? fun s => p s := by
    rw [List.find?_filter]
    congr
    funext s
    simpa using hp s
  simp only [findSkipRule_eq_prefer, skipById_eq, skipByKey]
  rw [hfilter _ fun s => .inl, hfilter _ fun s => .inr]

/-- Tests that agree on the elements of two lists hold first at one place. -/
theorem findIdx_congr_of_forall₂ {α : Type u} {β : Type v} {R : α → β → Prop} {p : α → Bool}
    {q : β → Bool} {l : List α} {l' : List β} (h : List.Forall₂ R l l')
    (hpq : ∀ a b, R a b → p a = q b) : l.findIdx p = l'.findIdx q := by
  induction h with
  | nil => rfl
  | cons hab _ ih => rw [List.findIdx_cons, List.findIdx_cons, hpq _ _ hab, ih]

/-- **How directives and rules are spelled does not count.** A search among respelled directives
for a respelled rule stops at the same place. -/
theorem findSkipRule_respelled {id' key' : String} {directives' : List SkipRule}
    (hid : Text.Recased rule.id id') (hkey : Text.Recased key key')
    (h : List.Forall₂ SkipRule.Respelled r.skipRules directives') :
    let found := r.findSkipRule rule key
    let found' := { r with skipRules := directives' }.findSkipRule { rule with id := id' } key'
    found'.warnings = found.warnings ∧
      ∃ place : Nat, found.found = r.skipRules[place]? ∧ found'.found = directives'[place]? := by
  have hplaceId : r.skipRules.findIdx (fun s => s.NamesId rule.id) =
      directives'.findIdx fun s => s.NamesId id' :=
    findIdx_congr_of_forall₂ h fun s s' hs =>
      decide_eq_decide.2 (and_congr (not_congr hid.eq_empty_iff) (hs.1.congr hid))
  have hplaceKey : r.skipRules.findIdx (fun s => s.NamesKey key) =
      directives'.findIdx fun s => s.NamesKey key' :=
    findIdx_congr_of_forall₂ h fun s s' hs => decide_eq_decide.2 (hs.1.congr hkey)
  have hnone (place : Nat) : r.skipRules[place]? = none ↔ directives'[place]? = none := by
    rw [List.getElem?_eq_none_iff, List.getElem?_eq_none_iff, h.length_eq]
  simp only [findSkipRule_eq_prefer, skipById_eq, skipByKey, List.find?_eq_getElem?_findIdx]
  rw [← hplaceId, ← hplaceKey]
  generalize r.skipRules.findIdx (fun s => s.NamesId rule.id) = i
  generalize r.skipRules.findIdx (fun s => s.NamesKey key) = j
  have hi := hnone i
  have hj := hnone j
  rcases hs : r.skipRules[i]? with _ | s <;> rcases hs' : directives'[i]? with _ | s'
  · rcases ht : r.skipRules[j]? with _ | t <;> rcases ht' : directives'[j]? with _ | t'
    · exact ⟨rfl, j, ht.symm, ht'.symm⟩
    · simp [ht, ht'] at hj
    · simp [ht, ht'] at hj
    · exact ⟨rfl, j, ht.symm, ht'.symm⟩
  · simp [hs, hs'] at hi
  · simp [hs, hs'] at hi
  · exact ⟨rfl, i, hs.symm, hs'.symm⟩

/-! ### What becomes of a match -/

/-- A rule is skipped with the comment of the directive that is found. -/
theorem dispose_eq_skipped_iff {comment : String} :
    r.dispose rule key = .skipped comment ↔
      (r.findSkipRule rule key).found.map SkipRule.comment = some comment := by
  unfold dispose
  rcases (r.findSkipRule rule key).found with _ | s
  · rcases r.resolveSeverity rule.severity with _ | severity <;> simp
  · simp

/-- A disposition depends on the comment of the directive, if there is one, and on what the
resource makes of the rule's severity. -/
theorem dispose_congr {r' : Resource} {rule' : Rule} {key' : String}
    (hfound : (r'.findSkipRule rule' key').found.map SkipRule.comment =
      (r.findSkipRule rule key).found.map SkipRule.comment)
    (hseverity : r'.resolveSeverity rule'.severity = r.resolveSeverity rule.severity) :
    r'.dispose rule' key' = r.dispose rule key := by
  unfold dispose
  rw [hseverity]
  revert hfound
  rcases (r.findSkipRule rule key).found with _ | s <;>
    rcases (r'.findSkipRule rule' key').found with _ | s' <;> simp +contextual

/-- **The directive that counts.** A search for a directive comes to the first one by the rule's
id, or else, with a warning, to the first one by its key, or else to none. It stops at the same
place if letter case is changed in the directives, in the id or in the key, and directives that do
not concern the rule may be put in or left out; in both cases the same becomes of the match. A
match is skipped exactly if some directive concerns the rule, with the comment of the directive
that counts, whatever the severity bounds of the resource are. -/
theorem directive_in_order (r : Resource) (rule : Rule) (key : String) :
    (∀ found, r.findSkipRule rule key = found ↔
      SkipRule.Directs r.skipRules rule key found) ∧
    (∀ id' key' directives', Text.Recased rule.id id' → Text.Recased key key' →
      List.Forall₂ SkipRule.Respelled r.skipRules directives' →
        let rule' := { rule with id := id' }
        let r' := { r with skipRules := directives' }
        (r'.findSkipRule rule' key').warnings = (r.findSkipRule rule key).warnings ∧
        (∃ place : Nat, (r.findSkipRule rule key).found = r.skipRules[place]? ∧
          (r'.findSkipRule rule' key').found = directives'[place]?) ∧
        r'.dispose rule' key' = r.dispose rule key) ∧
    (∀ directives', directives'.filter (·.Concerns rule key) =
      r.skipRules.filter (·.Concerns rule key) →
        let r' := { r with skipRules := directives' }
        r'.findSkipRule rule key = r.findSkipRule rule key ∧
        r'.dispose rule key = r.dispose rule key) ∧
    ((∃ comment, r.dispose rule key = .skipped comment) ↔
      ∃ s ∈ r.skipRules, s.Concerns rule key) ∧
    ∀ minSeverity maxSeverity comment,
      { r with minSeverity, maxSeverity }.dispose rule key = .skipped comment ↔
        ∃ s warnings, SkipRule.Directs r.skipRules rule key ⟨some s, warnings⟩ ∧
          s.comment = comment := by
  refine ⟨fun found => findSkipRule_eq_iff, fun id' key' directives' hid hkey h => ?_,
    fun directives' h => ?_, ?_, fun minSeverity maxSeverity comment => ?_⟩
  · obtain ⟨hwarnings, place, hplace, hplace'⟩ := findSkipRule_respelled hid hkey h
    have hcomments : r.skipRules.map SkipRule.comment = directives'.map SkipRule.comment := by
      rw [← List.forall₂_eq_eq_eq, List.forall₂_map_left_iff, List.forall₂_map_right_iff]
      exact h.imp fun _ _ hs => hs.2
    refine ⟨hwarnings, ⟨place, hplace, hplace'⟩, dispose_congr ?_ rfl⟩
    rw [hplace, hplace', ← List.getElem?_map, ← List.getElem?_map, hcomments]
  · have hsame : { r with skipRules := directives' }.findSkipRule rule key =
        r.findSkipRule rule key := by
      rw [← findSkipRule_filter r, ← h]
      exact (findSkipRule_filter { r with skipRules := directives' } rule key).symm
    exact ⟨hsame, dispose_congr (by rw [hsame]) rfl⟩
  · simp only [dispose_eq_skipped_iff, ← exists_found_iff, Option.map_eq_some_iff]
    exact ⟨fun ⟨_, s, hs, _⟩ => ⟨s, hs⟩, fun ⟨s, hs⟩ => ⟨_, s, hs, rfl⟩⟩
  · have hfound : { r with minSeverity, maxSeverity }.findSkipRule rule key =
        r.findSkipRule rule key := rfl
    rw [dispose_eq_skipped_iff, hfound, Option.map_eq_some_iff]
    constructor
    · rintro ⟨s, hs, hcomment⟩
      exact ⟨s, (r.findSkipRule rule key).warnings, findSkipRule_eq_iff.1 (by rw [← hs]), hcomment⟩
    · rintro ⟨s, warnings, hs, hcomment⟩
      exact ⟨s, by rw [findSkipRule_eq_iff.2 hs], hcomment⟩

end Resource

/-! ### Directives by either name -/

namespace EitherName

/-- A rule with an id. -/
def rule : Rule where
  name := "versioning"
  file := "versioning.rego"
  templateArgs := .empty
  severity := .high
  description := ""
  referenceId := "S3.Versioning"
  category := ""
  version := 1
  id := "AC_AWS_0214"
  resourceType := "aws_s3_bucket"
  policyType := "aws"

/-- A bucket that mutes its findings. Directives by the key and by the id of the rule are mixed
with one for another rule. -/
def bucket : Resource :=
  { Resource.ofTypeName "aws_s3_bucket" "logs" with
    skipRules :=
      [⟨"s3.versioning", "old"⟩, ⟨"S3.Logging", "off"⟩, ⟨"ac_aws_0214", "approved"⟩,
        ⟨"AC_AWS_0214", "again"⟩]
    maxSeverity := some .mute }

/-- The hypotheses of `Resource.directive_in_order` are satisfiable: the first directive by the id
counts, though one by the key stands before it. So it does in other letter case, and without the
directive for the other rule. -/
theorem directive_in_order_eitherName :
    bucket.findSkipRule rule "S3.Versioning" = ⟨some ⟨"ac_aws_0214", "approved"⟩, 0⟩ ∧
      bucket.dispose rule "S3.Versioning" = .skipped "approved" ∧
      (let directives' : List SkipRule :=
        [⟨"S3.VERSIONING", "old"⟩, ⟨"s3.logging", "off"⟩, ⟨"AC_aws_0214", "approved"⟩,
          ⟨"ac_AWS_0214", "again"⟩]
      List.Forall₂ SkipRule.Respelled bucket.skipRules directives' ∧
        { bucket with skipRules := directives' }.dispose
          { rule with id := "ac_Aws_0214" } "S3.versioning" = .skipped "approved") ∧
      let directives' : List SkipRule :=
        [⟨"s3.versioning", "old"⟩, ⟨"ac_aws_0214", "approved"⟩, ⟨"AC_AWS_0214", "again"⟩,
          ⟨"K8S.Pods", ""⟩]
      directives'.filter (·.Concerns rule "S3.Versioning") =
          bucket.skipRules.filter (·.Concerns rule "S3.Versioning") ∧
        { bucket with skipRules := directives' }.findSkipRule rule "S3.Versioning" =
          ⟨some ⟨"ac_aws_0214", "approved"⟩, 0⟩ := by
  obtain ⟨hfound, hrespelled, hfilter, -, hcomment⟩ :=
    bucket.directive_in_order rule "S3.Versioning"
  have hdirects : SkipRule.Directs bucket.skipRules rule "S3.Versioning"
      ⟨some ⟨"ac_aws_0214", "approved"⟩, 0⟩ :=
    .byId ⟨[⟨"s3.versioning", "old"⟩, ⟨"S3.Logging", "off"⟩], [⟨"AC_AWS_0214", "again"⟩], rfl,
      by decide, by decide⟩
  have hskipped := (hcomment bucket.minSeverity bucket.maxSeverity "approved").2
    ⟨_, _, hdirects, rfl⟩
  have hother : List.Forall₂ SkipRule.Respelled bucket.skipRules
      [⟨"S3.VERSIONING", "old"⟩, ⟨"s3.logging", "off"⟩, ⟨"AC_aws_0214", "approved"⟩,
        ⟨"ac_AWS_0214", "again"⟩] :=
    .cons ⟨by decide, rfl⟩ (.cons ⟨by decide, rfl⟩ (.cons ⟨by decide, rfl⟩
      (.cons ⟨by decide, rfl⟩ .nil)))
  have hfewer : List.filter (·.Concerns rule "S3.Versioning")
      [⟨"s3.versioning", "old"⟩, ⟨"ac_aws_0214", "approved"⟩, ⟨"AC_AWS_0214", "again"⟩,
        ⟨"K8S.Pods", ""⟩] = bucket.skipRules.filter (·.Concerns rule "S3.Versioning") := by
    decide
  refine ⟨(hfound _).2 hdirects, hskipped, ⟨hother, ?_⟩, hfewer, ?_⟩
  · exact (hrespelled "ac_Aws_0214" "S3.versioning" _ (by decide) (by decide) hother).2.2.trans
      hskipped
  · exact (hfilter _ hfewer).1.trans ((hfound _).2 hdirects)

end EitherName

end Rulebook
