/-
# What is visited of a filter

Specification §4.1 (Filter Specification primitives).

The answer of a filter is the boolean reading of its tree (`Filter.reads`): an `allOf` holds if it
has parts and all of them hold, an `anyOf` if one of its parts does. The warnings on the way depend
on more than the answer, namely on what is looked at. Of the parts of a combinator these are the
ones up to the first that settles its answer, so `Filter.visited` lists the leaves that are looked
at by the boolean reading alone, and `Filter.visit_eq` counts the warnings along this list.

A part of the same kind as the combinator around it can be replaced by its own parts
(`Filter.SplicesTo`), since one answer after the other is an associative operation that stops where
the inner one would have stopped (`Verdict.andThen_assoc`, `Verdict.orElse_assoc`). The exception
is an `allOf` without parts. It denies, whereas no parts in its place would say nothing.
-/

import Rulebook.Proofs.Rule.Selection

namespace Rulebook

/-! ### Lists up to an element -/

/-- A list up to the first element that passes a test, that one included. -/
def upTo {α : Type u} (p : α → Bool) (l : List α) : List α := l.take (l.findIdx p + 1)

/-- The elements up to the first with a property start with the first element. -/
theorem upTo_cons {α : Type u} (p : α → Bool) (a : α) (l : List α) :
    upTo p (a :: l) = a :: if p a then [] else upTo p l := by
  rw [upTo, List.findIdx_cons, List.take_succ_cons]
  cases p a <;> rfl

/-! ### One answer after the other -/

namespace Verdict

/-- The second answer is asked for if the first one is yes, and then settles the matter. -/
def andThen (v w : Verdict) : Verdict :=
  if v.holds then ⟨w.holds, v.warnings + w.warnings⟩ else v

/-- The second answer is asked for if the first one is no, and then settles the matter. -/
def orElse (v w : Verdict) : Verdict :=
  if v.holds then v else ⟨w.holds, v.warnings + w.warnings⟩

/-- Verdicts that must all hold can be grouped in any way. -/
theorem andThen_assoc (u v w : Verdict) : (u.andThen v).andThen w = u.andThen (v.andThen w) := by
  obtain ⟨_ | _, m⟩ := u <;> obtain ⟨_ | _, n⟩ := v <;> simp [andThen, Nat.add_assoc]

/-- Verdicts one of which must hold can be grouped in any way. -/
theorem orElse_assoc (u v w : Verdict) : (u.orElse v).orElse w = u.orElse (v.orElse w) := by
  obtain ⟨_ | _, m⟩ := u <;> obtain ⟨_ | _, n⟩ := v <;> simp [orElse, Nat.add_assoc]

/-- A quiet yes in front of another verdict changes nothing. -/
theorem quiet_andThen (v : Verdict) : (quiet true).andThen v = v := by
  simp [quiet, andThen]

/-- A quiet no in front of another verdict changes nothing. -/
theorem quiet_orElse (v : Verdict) : (quiet false).orElse v = v := by
  simp [quiet, orElse]

end Verdict

/-! ### Rules and the ids that name them -/

namespace Rule

/-- An id names a rule by its reference id and not by its own id, which earns a warning. -/
def NamedByReferenceOnly (r : Rule) (id : String) : Prop :=
  ¬ (r.id ≠ "" ∧ id = r.id) ∧ id = r.referenceId

instance (r : Rule) (id : String) : Decidable (r.NamedBy id) :=
  inferInstanceAs (Decidable (r.id ≠ "" ∧ id = r.id ∨ id = r.referenceId))

instance (r : Rule) (id : String) : Decidable (r.NamedByReferenceOnly id) :=
  inferInstanceAs (Decidable (¬ (r.id ≠ "" ∧ id = r.id) ∧ id = r.referenceId))

/-- An id that names a rule by its reference id only does name it. -/
theorem NamedByReferenceOnly.namedBy {r : Rule} {id : String} (h : r.NamedByReferenceOnly id) :
    r.NamedBy id :=
  .inr h.2

end Rule

namespace Filter

/-! ### The boolean reading, and the leaves that are looked at -/

/-- The filter is no combination of others. -/
def isLeaf : Filter → Bool
  | .allOf _ => false
  | .anyOf _ => false
  | _ => true

/-- Induction over filters: of a combinator, the statement is known for every part. -/
theorem induction {motive : Filter → Prop} (leaf : ∀ f, f.isLeaf = true → motive f)
    (allOf : ∀ parts, (∀ f ∈ parts, motive f) → motive (.allOf parts))
    (anyOf : ∀ parts, (∀ f ∈ parts, motive f) → motive (.anyOf parts)) (f : Filter) :
    motive f := by
  refine @Filter.rec motive (fun parts => ∀ f ∈ parts, motive f) (fun _ => leaf _ rfl)
    (fun _ => leaf _ rfl) (fun _ => leaf _ rfl) (fun _ => leaf _ rfl) (fun _ => leaf _ rfl)
    (fun _ => leaf _ rfl) allOf anyOf ?_ ?_ f
  · intro f hf
    cases hf
  · intro f rest hf hrest
    exact List.forall_mem_cons.2 ⟨hf, hrest⟩

section

variable (r : Rule)

mutual

/-- What a filter says of a rule. -/
def reads : Filter → Bool
  | .policyType types => policyTypeHolds types r
  | .resourceType type => resourceTypeHolds type r
  | .referenceId id => r.NamedBy id
  | .referenceIds ids => ids.isEmpty || ids.any (r.NamedBy ·)
  | .category names => categoryHolds names r
  | .severity minimum => severityHolds minimum r
  | .allOf parts => !parts.isEmpty && allRead parts
  | .anyOf parts => anyReads parts

/-- All parts say yes. -/
def allRead : List Filter → Bool
  | [] => true
  | f :: rest => reads f && allRead rest

/-- Some part says yes. -/
def anyReads : List Filter → Bool
  | [] => false
  | f :: rest => reads f || anyReads rest

end

mutual

/-- The leaves that are looked at, in order. -/
def visited : Filter → List Filter
  | .allOf parts => visitedUpTo false parts
  | .anyOf parts => visitedUpTo true parts
  | f => [f]

/-- The leaves that are looked at in some parts, up to the first part with this answer. -/
def visitedUpTo (answer : Bool) : List Filter → List Filter
  | [] => []
  | f :: rest => visited f ++ if reads r f = answer then [] else visitedUpTo answer rest

end

/-- The ids that a leaf compares with the rule: of several ids, those up to the first that names
the rule. -/
def comparedIds : Filter → List String
  | .referenceId id => [id]
  | .referenceIds ids => upTo (r.NamedBy ·) ids
  | _ => []

/-- All ids that are compared with the rule on a visit. -/
def comparisons (f : Filter) : List String := (f.visited r).flatMap (comparedIds r)

/-- The warnings that some comparisons earn. -/
def warned (ids : List String) : Nat := ids.countP (r.NamedByReferenceOnly ·)

end

/-- All leaves of a filter, from the left. -/
def leaves : Filter → List Filter
  | .allOf parts => parts.flatMap fun f => leaves f
  | .anyOf parts => parts.flatMap fun f => leaves f
  | f => [f]

section

variable {r : Rule}

/-- All parts hold. -/
theorem allRead_eq_all (parts : List Filter) : allRead r parts = parts.all (reads r) := by
  induction parts with
  | nil => rfl
  | cons f rest ih => rw [allRead, ih, List.all_cons]

/-- One of the parts holds. -/
theorem anyReads_eq_any (parts : List Filter) : anyReads r parts = parts.any (reads r) := by
  induction parts with
  | nil => rfl
  | cons f rest ih => rw [anyReads, ih, List.any_cons]

/-- An `allOf` holds if it has parts and all of them hold. -/
theorem reads_allOf (parts : List Filter) :
    (allOf parts).reads r = (!parts.isEmpty && parts.all (reads r)) := by
  rw [reads, allRead_eq_all]

/-- An `anyOf` holds if some part does. -/
theorem reads_anyOf (parts : List Filter) : (anyOf parts).reads r = parts.any (reads r) := by
  rw [reads, anyReads_eq_any]

/-- Parts are visited up to the first that gives the answer. -/
theorem visitedUpTo_eq_flatMap (answer : Bool) (parts : List Filter) :
    visitedUpTo r answer parts =
      (upTo (fun f => f.reads r == answer) parts).flatMap (visited r) := by
  induction parts with
  | nil => rfl
  | cons f rest ih =>
    rw [visitedUpTo, ih, upTo_cons, List.flatMap_cons]
    by_cases h : f.reads r = answer <;> simp [h]

/-- Of an `allOf` the parts up to the first that denies are looked at. -/
theorem visited_allOf (parts : List Filter) :
    (allOf parts).visited r = (upTo (fun f => !f.reads r) parts).flatMap (visited r) := by
  have htest : (fun f : Filter => f.reads r == false) = fun f => !f.reads r :=
    funext fun f => by cases f.reads r <;> rfl
  rw [visited, visitedUpTo_eq_flatMap, htest]

/-- Of an `anyOf` the parts up to the first that holds are looked at. -/
theorem visited_anyOf (parts : List Filter) :
    (anyOf parts).visited r = (upTo (reads r) parts).flatMap (visited r) := by
  have htest : (fun f : Filter => f.reads r == true) = reads r :=
    funext fun f => by cases f.reads r <;> rfl
  rw [visited, visitedUpTo_eq_flatMap, htest]

/-- Of a filter without parts only this one is visited. -/
theorem visited_of_isLeaf {f : Filter} (h : f.isLeaf = true) : f.visited r = [f] := by
  cases f with
  | allOf parts => cases h
  | anyOf parts => cases h
  | _ => rfl

/-- A filter without parts is its own leaf. -/
theorem leaves_of_isLeaf {f : Filter} (h : f.isLeaf = true) : f.leaves = [f] := by
  cases f with
  | allOf parts => cases h
  | anyOf parts => cases h
  | _ => simp [leaves]

/-- **Leaves are looked at from the left**, each at most once. -/
theorem visited_sublist_leaves (f : Filter) : (f.visited r).Sublist f.leaves := by
  have hparts (p : Filter → Bool) (parts : List Filter)
      (h : ∀ f ∈ parts, (f.visited r).Sublist f.leaves) :
      ((upTo p parts).flatMap (visited r)).Sublist (parts.flatMap leaves) := by
    induction parts with
    | nil => exact List.Sublist.refl _
    | cons f rest ih =>
      have hf : (f.visited r).Sublist f.leaves := h f List.mem_cons_self
      have hrest := ih fun g hg => h g (List.mem_cons_of_mem _ hg)
      rw [upTo_cons, List.flatMap_cons, List.flatMap_cons]
      split
      · exact hf.append (List.nil_sublist _)
      · exact hf.append hrest
  induction f using Filter.induction with
  | leaf f hf =>
    have hsame : f.visited r = f.leaves := (visited_of_isLeaf hf).trans (leaves_of_isLeaf hf).symm
    exact hsame ▸ List.Sublist.refl _
  | allOf parts ih =>
    rw [visited_allOf, leaves]
    exact hparts _ parts ih
  | anyOf parts ih =>
    rw [visited_anyOf, leaves]
    exact hparts _ parts ih

/-! ### Visits, part after part -/

/-- The first part is visited first, and the others if it holds. -/
theorem visitAll_cons (f : Filter) (rest : List Filter) :
    visitAll (f :: rest) r = (f.visit r).andThen (visitAll rest r) := by
  rw [visitAll]
  rfl

/-- The first part is visited first, and the others if it does not hold. -/
theorem visitAny_cons (f : Filter) (rest : List Filter) :
    visitAny (f :: rest) r = (f.visit r).orElse (visitAny rest r) := by
  rw [visitAny]
  rfl

/-- Parts that must all hold are visited one list after the other. -/
theorem visitAll_append (parts parts' : List Filter) :
    visitAll (parts ++ parts') r = (visitAll parts r).andThen (visitAll parts' r) := by
  induction parts with
  | nil => rw [List.nil_append, visitAll, Verdict.quiet_andThen]
  | cons f rest ih =>
    rw [List.cons_append, visitAll_cons, visitAll_cons, ih, Verdict.andThen_assoc]

/-- Parts one of which must hold are visited one list after the other. -/
theorem visitAny_append (parts parts' : List Filter) :
    visitAny (parts ++ parts') r = (visitAny parts r).orElse (visitAny parts' r) := by
  induction parts with
  | nil => rw [List.nil_append, visitAny, Verdict.quiet_orElse]
  | cons f rest ih =>
    rw [List.cons_append, visitAny_cons, visitAny_cons, ih, Verdict.orElse_assoc]

/-- A conjunction that has parts is visited part by part. -/
theorem visit_allOf_of_ne_nil {parts : List Filter} (h : parts ≠ []) :
    (allOf parts).visit r = visitAll parts r := by
  rcases parts with _ | ⟨f, rest⟩
  · exact absurd rfl h
  · rw [visit]

/-- A disjunction is visited part by part. -/
theorem visit_anyOf (parts : List Filter) : (anyOf parts).visit r = visitAny parts r := by
  rw [visit]

/-! ### The warnings of a visit -/

/-- The warnings about ids add up. -/
theorem warned_append (ids ids' : List String) :
    warned r (ids ++ ids') = warned r ids + warned r ids' :=
  List.countP_append

/-- An id is compared once, and may give a warning. -/
theorem visitId_eq (id : String) : visitId id r = ⟨r.NamedBy id, warned r [id]⟩ := by
  unfold visitId
  by_cases hid : r.id ≠ "" ∧ id = r.id
  · have honly : ¬ r.NamedByReferenceOnly id := fun h => h.1 hid
    have hnamed : r.NamedBy id := .inl hid
    rw [if_pos hid]
    simp [Verdict.quiet, warned, honly, hnamed]
  · rw [if_neg hid]
    by_cases href : id = r.referenceId
    · have honly : r.NamedByReferenceOnly id := ⟨hid, href⟩
      rw [if_pos href]
      simp [warned, honly, honly.namedBy]
    · have hnamed : ¬ r.NamedBy id := not_or.2 ⟨hid, href⟩
      have honly : ¬ r.NamedByReferenceOnly id := mt Rule.NamedByReferenceOnly.namedBy hnamed
      rw [if_neg href]
      simp [Verdict.quiet, warned, honly, hnamed]

/-- Ids are compared up to the first that names the rule. -/
theorem visitIds_eq (ids : List String) :
    visitIds ids r = ⟨ids.any (r.NamedBy ·), warned r (upTo (r.NamedBy ·) ids)⟩ := by
  induction ids with
  | nil => rfl
  | cons id rest ih =>
    rw [visitIds, ih, visitId_eq, upTo_cons, List.any_cons]
    by_cases h : r.NamedBy id
    · simp [h]
    · simp [h, ← warned_append]

/-- Of the ids that are compared only the last may name the rule, so one warning is the most. -/
theorem warned_upTo_le_one (ids : List String) : warned r (upTo (r.NamedBy ·) ids) ≤ 1 := by
  induction ids with
  | nil => exact Nat.zero_le 1
  | cons id rest ih =>
    rw [upTo_cons, ← List.singleton_append, warned_append]
    by_cases h : r.NamedBy id
    · have hone : warned r [id] ≤ 1 := List.countP_le_length
      simpa [h, warned] using hone
    · have honly : ¬ r.NamedByReferenceOnly id := mt Rule.NamedByReferenceOnly.namedBy h
      have hzero : warned r [id] = 0 := by simp [warned, honly]
      rw [hzero]
      simpa [h] using ih

/-- A filter without parts compares its own ids. -/
theorem visit_of_isLeaf {f : Filter} (h : f.isLeaf = true) :
    f.visit r = ⟨f.reads r, warned r (comparedIds r f)⟩ := by
  cases f with
  | allOf parts => cases h
  | anyOf parts => cases h
  | referenceId id => exact visitId_eq id
  | referenceIds ids =>
    rcases ids with _ | ⟨id, rest⟩
    · rfl
    · exact visitIds_eq (id :: rest)
  | _ => rfl

/-- The comparisons of a filter without parts are its own. -/
theorem comparisons_of_isLeaf {f : Filter} (h : f.isLeaf = true) :
    f.comparisons r = comparedIds r f := by
  rw [comparisons, visited_of_isLeaf h, List.flatMap_singleton]

/-- A conjunction is visited up to the first part that does not hold. -/
theorem visitAll_eq {parts : List Filter}
    (h : ∀ f ∈ parts, f.visit r = ⟨f.reads r, warned r (f.comparisons r)⟩) :
    visitAll parts r = ⟨parts.all (reads r),
      warned r ((upTo (fun f => !f.reads r) parts).flatMap (comparisons r))⟩ := by
  induction parts with
  | nil => rfl
  | cons f rest ih =>
    rw [visitAll_cons, ih fun g hg => h g (List.mem_cons_of_mem _ hg), h f List.mem_cons_self,
      upTo_cons, List.flatMap_cons, List.all_cons, Verdict.andThen]
    by_cases hf : f.reads r = true <;> simp [hf, warned_append]

/-- A disjunction is visited up to the first part that holds. -/
theorem visitAny_eq {parts : List Filter}
    (h : ∀ f ∈ parts, f.visit r = ⟨f.reads r, warned r (f.comparisons r)⟩) :
    visitAny parts r = ⟨parts.any (reads r),
      warned r ((upTo (reads r) parts).flatMap (comparisons r))⟩ := by
  induction parts with
  | nil => rfl
  | cons f rest ih =>
    rw [visitAny_cons, ih fun g hg => h g (List.mem_cons_of_mem _ hg), h f List.mem_cons_self,
      upTo_cons, List.flatMap_cons, List.any_cons, Verdict.orElse]
    by_cases hf : f.reads r = true <;> simp [hf, warned_append]

/-- **The answer is the boolean reading, and the warnings are those of the comparisons on the
way.** -/
theorem visit_eq (f : Filter) : f.visit r = ⟨f.reads r, warned r (f.comparisons r)⟩ := by
  induction f using Filter.induction with
  | leaf f hf => rw [visit_of_isLeaf hf, comparisons_of_isLeaf hf]
  | allOf parts ih =>
    have hcomparisons : (allOf parts).comparisons r =
        (upTo (fun f => !f.reads r) parts).flatMap (comparisons r) := by
      rw [comparisons, visited_allOf, List.flatMap_assoc]
      rfl
    rw [hcomparisons, reads_allOf]
    rcases parts with _ | ⟨f, rest⟩
    · rfl
    · rw [visit_allOf_of_ne_nil (List.cons_ne_nil f rest), visitAll_eq ih]
      rfl
  | anyOf parts ih =>
    have hcomparisons : (anyOf parts).comparisons r =
        (upTo (reads r) parts).flatMap (comparisons r) := by
      rw [comparisons, visited_anyOf, List.flatMap_assoc]
      rfl
    rw [hcomparisons, reads_anyOf, visit_anyOf, visitAny_eq ih]

end

/-! ### Flattening -/

/-- Somewhere in a filter, an `allOf` with parts inside an `allOf`, or any `anyOf` inside an
`anyOf`, is replaced by its parts. -/
inductive SplicesTo : Filter → Filter → Prop
  | allOf (before : List Filter) (f : Filter) (rest after : List Filter) :
      SplicesTo (allOf (before ++ allOf (f :: rest) :: after))
        (allOf (before ++ (f :: rest ++ after)))
  | anyOf (before parts after : List Filter) :
      SplicesTo (anyOf (before ++ anyOf parts :: after)) (anyOf (before ++ (parts ++ after)))
  | inAllOf (before : List Filter) {f f' : Filter} (after : List Filter) (h : SplicesTo f f') :
      SplicesTo (allOf (before ++ f :: after)) (allOf (before ++ f' :: after))
  | inAnyOf (before : List Filter) {f f' : Filter} (after : List Filter) (h : SplicesTo f f') :
      SplicesTo (anyOf (before ++ f :: after)) (anyOf (before ++ f' :: after))

/-- An `allOf` without parts stands in an `allOf`, as a part of it or of an `allOf` that does. -/
inductive NestsEmpty : Filter → Prop
  | part {parts : List Filter} (h : allOf [] ∈ parts) : NestsEmpty (allOf parts)
  | deeper {parts : List Filter} {f : Filter} (hf : f ∈ parts) (h : NestsEmpty f) :
      NestsEmpty (allOf parts)

variable {r : Rule}

/-- **Flattening changes neither the answer nor the warnings.** -/
theorem SplicesTo.visit_eq {f f' : Filter} (h : f.SplicesTo f') : f'.visit r = f.visit r := by
  induction h with
  | allOf before f rest after =>
    rw [visit_allOf_of_ne_nil (by simp), visit_allOf_of_ne_nil (by simp), visitAll_append,
      visitAll_append, visitAll_append, visitAll_cons (.allOf _),
      visit_allOf_of_ne_nil (List.cons_ne_nil f rest)]
  | anyOf before parts after =>
    rw [visit_anyOf, visit_anyOf, visitAny_append, visitAny_append, visitAny_append,
      visitAny_cons (.anyOf parts), visit_anyOf]
  | inAllOf before after h ih =>
    rw [visit_allOf_of_ne_nil (by simp), visit_allOf_of_ne_nil (by simp), visitAll_append,
      visitAll_append, visitAll_cons, visitAll_cons, ih]
  | inAnyOf before after h ih =>
    rw [visit_anyOf, visit_anyOf, visitAny_append, visitAny_append, visitAny_cons, visitAny_cons,
      ih]

/-- The verdict of a filter is its reading as a formula. -/
theorem holds_visit (f : Filter) : (f.visit r).holds = f.reads r := by
  rw [Filter.visit_eq]

/-- Behind a part that denies, no part of an `allOf` is looked at. -/
theorem visit_allOf_of_denied (before : List Filter) {f : Filter} (h : f.reads r = false)
    (after : List Filter) :
    (allOf (before ++ f :: after)).visit r = (allOf (before ++ [f])).visit r := by
  have hstop (w : Verdict) : (f.visit r).andThen w = f.visit r :=
    if_neg (by rw [holds_visit, h]; exact Bool.false_ne_true)
  rw [visit_allOf_of_ne_nil (by simp), visit_allOf_of_ne_nil (by simp), visitAll_append,
    visitAll_append, visitAll_cons, visitAll_cons, hstop, hstop]

/-- Behind a part that holds, no part of an `anyOf` is looked at. -/
theorem visit_anyOf_of_held (before : List Filter) {f : Filter} (h : f.reads r = true)
    (after : List Filter) :
    (anyOf (before ++ f :: after)).visit r = (anyOf (before ++ [f])).visit r := by
  have hstop (w : Verdict) : (f.visit r).orElse w = f.visit r :=
    if_pos (by rw [holds_visit, h])
  rw [visit_anyOf, visit_anyOf, visitAny_append, visitAny_append, visitAny_cons, visitAny_cons,
    hstop, hstop]

/-- An `allOf` with a part that denies denies. -/
theorem reads_allOf_of_mem {parts : List Filter} {f : Filter} (hf : f ∈ parts)
    (h : f.reads r = false) : (allOf parts).reads r = false := by
  have hall : parts.all (reads r) = false :=
    List.all_eq_false.2 ⟨f, hf, by simp [h]⟩
  rw [reads_allOf, hall, Bool.and_false]

/-- **An `allOf` without parts denies for all around it.** -/
theorem NestsEmpty.reads_eq_false {f : Filter} (h : f.NestsEmpty) : f.reads r = false := by
  induction h with
  | part h => exact reads_allOf_of_mem h rfl
  | deeper hf _ ih => exact reads_allOf_of_mem hf ih

/-- **A visit, for any tree and any rule.**  Its answer is the boolean reading of the tree, in which
an `allOf` has parts and all of them hold, and of an `anyOf` some part holds. Leaves are looked at
from the left; of a combinator they are those of its parts up to the first that settles the answer,
and what stands behind that part does not matter. The warnings are as many as there are ids, among
those that are compared with the rule at these leaves, that name it by the reference id alone, at
most one for each list of ids. Flattening changes neither the answer nor the warnings, but with an
`allOf` without parts in it, directly or through others, an `allOf` denies every rule. -/
theorem visit_as_boolean_reading (f : Filter) (r : Rule) :
    f.visit r = ⟨f.reads r, warned r (f.comparisons r)⟩ ∧
    (∀ parts, (allOf parts).reads r = (!parts.isEmpty && parts.all (reads r)) ∧
      (anyOf parts).reads r = parts.any (reads r)) ∧
    (f.visited r).Sublist f.leaves ∧
    (∀ parts,
      (allOf parts).visited r = (upTo (fun g => !g.reads r) parts).flatMap (visited r) ∧
      (anyOf parts).visited r = (upTo (reads r) parts).flatMap (visited r)) ∧
    (∀ before g after,
      (g.reads r = false →
        (allOf (before ++ g :: after)).visit r = (allOf (before ++ [g])).visit r) ∧
      (g.reads r = true →
        (anyOf (before ++ g :: after)).visit r = (anyOf (before ++ [g])).visit r)) ∧
    (∀ ids, ((referenceIds ids).visit r).warnings ≤ 1) ∧
    (∀ f', f.SplicesTo f' → f'.visit r = f.visit r) ∧
    (f.NestsEmpty → f.satisfies r = false) := by
  refine ⟨f.visit_eq, fun parts => ⟨reads_allOf parts, reads_anyOf parts⟩,
    visited_sublist_leaves f, fun parts => ⟨visited_allOf parts, visited_anyOf parts⟩,
    fun before g after => ⟨fun h => visit_allOf_of_denied before h after,
      fun h => visit_anyOf_of_held before h after⟩,
    fun ids => ?_, fun f' h => h.visit_eq, fun h => ?_⟩
  · have hvisit : (referenceIds ids).visit r = _ := visit_of_isLeaf rfl
    rw [hvisit]
    exact warned_upTo_le_one ids
  · rw [satisfies, holds_visit]
    exact h.reads_eq_false

end Filter

end Rulebook
