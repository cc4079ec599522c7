/-
# What a graph has of what was added

Specification §6 (External Interfaces).

A graph that is built by adding resources, call by call, has under each type everything that was
ever added under it, in order, except what agrees in name, source and configuration with something
added earlier (`Resource.distinct`). Adding compares a resource only with those that were kept.
It comes to the same, since agreeing is an equivalence: what was not kept agrees with something
that was, and so does whatever agrees with it (`Resource.any_foldl_addNew`).

So a graph depends on its history alone. Calls for different types can be exchanged, a call can
be cut in two, and to repeat one that was made before has no effect.
-/

import Rulebook.Resource.Graph
import Rulebook.Proofs.Json.Same
import Rulebook.Proofs.SortedMap
import Mathlib.Algebra.BigOperators.Group.Finset.Basic

namespace Rulebook

open ResourceGraph (addNew)

namespace Resource

/-! ### Resources that agree -/

/-- Resources have the same configuration if they agree in name, source and values. -/
theorem sameConfig_iff {a b : Resource} :
    a.sameConfig b = true ↔ a.name = b.name ∧ a.source = b.source ∧
      a.config.json.unsignedZeros = b.config.json.unsignedZeros := by
  rw [sameConfig, Bool.and_eq_true, Bool.and_eq_true, beq_iff_eq, beq_iff_eq, Json.Value.same,
    Json.same_iff, and_assoc]

/-- A resource has its own configuration. -/
theorem sameConfig_refl (r : Resource) : r.sameConfig r = true :=
  sameConfig_iff.2 ⟨rfl, rfl, rfl⟩

/-- Resources that agree with each other agree with the same resources. -/
theorem sameConfig_congr {a b : Resource} (h : a.sameConfig b = true) (c : Resource) :
    a.sameConfig c = b.sameConfig c := by
  obtain ⟨hname, hsource, hconfig⟩ := sameConfig_iff.1 h
  rw [Bool.eq_iff_iff, sameConfig_iff, sameConfig_iff, hname, hsource, hconfig]

/-- Resources with one configuration have it in common with the same others. -/
theorem sameConfig_congr_right {a b : Resource} (h : a.sameConfig b = true) (c : Resource) :
    c.sameConfig a = c.sameConfig b := by
  obtain ⟨hname, hsource, hconfig⟩ := sameConfig_iff.1 h
  rw [Bool.eq_iff_iff, sameConfig_iff, sameConfig_iff, hname, hsource, hconfig]

/-! ### Lists without what agrees with something earlier -/

/-- The resources of a list that agree with none before them. -/
def distinct (history : List Resource) : List Resource :=
  (history.zipIdx.filter fun e => !(history.take e.2).any fun old => old.sameConfig e.1).map (·.1)

/-- A resource at the end counts unless one before has its configuration. -/
theorem distinct_append_singleton (history : List Resource) (r : Resource) :
    distinct (history ++ [r]) =
      distinct history ++ if history.any fun old => old.sameConfig r then [] else [r] := by
  have hfirst : ∀ e ∈ history.zipIdx, (history ++ [r]).take e.2 = history.take e.2 := by
    intro e he
    have hlt : e.2 < history.length := List.snd_lt_of_mem_zipIdx he
    exact List.take_append_of_le_length hlt.le
  have hlast : (history ++ [r]).take history.length = history := List.take_left
  unfold distinct
  rw [List.zipIdx_append, List.filter_append, List.map_append]
  congr 1
  · refine congrArg (List.map _) (List.filter_congr fun e he => ?_)
    rw [hfirst e he]
  · rw [Nat.zero_add]
    simp only [List.zipIdx_singleton, List.filter_singleton, hlast]
    cases history.any fun old => old.sameConfig r <;> rfl

/-- A resource that is added agrees with what it is compared with, or it is kept. Either way, what
agrees with it agrees with something in the list. -/
theorem any_addNew (list : List Resource) (r other : Resource) :
    ((addNew list r).any fun old => old.sameConfig other) =
      (list ++ [r]).any fun old => old.sameConfig other := by
  unfold addNew
  split
  · rename_i hany
    obtain ⟨old, hold, hsame⟩ := List.any_eq_true.1 hany
    rw [List.any_append, List.any_cons, List.any_nil, Bool.or_false]
    by_cases hr : r.sameConfig other = true
    · have hother : old.sameConfig other = true := sameConfig_congr hsame other ▸ hr
      rw [hr, Bool.or_true]
      exact List.any_eq_true.2 ⟨old, hold, hother⟩
    · rw [Bool.eq_false_iff.2 hr, Bool.or_false]
  · rfl

/-- **What was added agrees with something that was kept.** -/
theorem any_foldl_addNew (list added : List Resource) (other : Resource) :
    ((added.foldl addNew list).any fun old => old.sameConfig other) =
      (list ++ added).any fun old => old.sameConfig other := by
  induction added generalizing list with
  | nil => rw [List.foldl_nil, List.append_nil]
  | cons r rest ih =>
    rw [List.foldl_cons, ih, List.any_append, any_addNew, ← List.any_append, List.append_assoc,
      List.singleton_append]

/-- Adding extends the list. -/
theorem isPrefix_foldl_addNew (list added : List Resource) : list <+: added.foldl addNew list := by
  induction added generalizing list with
  | nil => exact List.prefix_rfl
  | cons r rest ih =>
    have hstep : list <+: addNew list r := by
      unfold addNew
      split
      · exact List.prefix_rfl
      · exact List.prefix_append list [r]
    exact hstep.trans (ih _)

/-- Nothing gets into the list but what is added. -/
theorem sublist_foldl_addNew (list added : List Resource) :
    (added.foldl addNew list).Sublist (list ++ added) := by
  induction added generalizing list with
  | nil => rw [List.append_nil, List.foldl_nil]
  | cons r rest ih =>
    have hstep : (addNew list r).Sublist (list ++ [r]) := by
      unfold addNew
      split
      · exact List.sublist_append_left list [r]
      · exact List.Sublist.refl _
    have hrest := (ih (addNew list r)).trans (hstep.append_right rest)
    rwa [List.append_assoc, List.singleton_append] at hrest

/-- What agrees with something in the list is not added to it. -/
theorem foldl_addNew_of_any {list added : List Resource}
    (h : ∀ r ∈ added, (list.any fun old => old.sameConfig r) = true) :
    added.foldl addNew list = list := by
  induction added with
  | nil => rfl
  | cons r rest ih =>
    have hstep : addNew list r = list := if_pos (h r List.mem_cons_self)
    rw [List.foldl_cons, hstep]
    exact ih fun r hr => h r (List.mem_cons_of_mem _ hr)

/-- **Adding one after the other keeps what agrees with nothing before it.** -/
theorem foldl_addNew_nil (added : List Resource) : added.foldl addNew [] = distinct added := by
  induction added using List.reverseRecOn with
  | nil => rfl
  | append_singleton earlier r ih =>
    have hany := any_foldl_addNew [] earlier r
    rw [List.nil_append, ih] at hany
    rw [List.foldl_append, ih, distinct_append_singleton, List.foldl_cons, List.foldl_nil, addNew,
      hany]
    split
    · rw [List.append_nil]
    · rfl

/-- **No two resources of the list agree.** -/
theorem pairwise_distinct (history : List Resource) :
    (distinct history).Pairwise fun a b => ¬ a.sameConfig b = true := by
  induction history using List.reverseRecOn with
  | nil => exact .nil
  | append_singleton earlier r ih =>
    rw [← foldl_addNew_nil, List.foldl_append, foldl_addNew_nil, List.foldl_cons, List.foldl_nil,
      addNew]
    split
    · exact ih
    · rename_i hany
      refine List.pairwise_append.2 ⟨ih, List.pairwise_singleton _ r, fun a ha b hb hsame => ?_⟩
      rw [List.mem_singleton.1 hb] at hsame
      exact hany (List.any_eq_true.2 ⟨a, ha, hsame⟩)

/-- **Of the resources that agree with a given one, the list has the first.** -/
theorem filter_distinct (history : List Resource) (r : Resource) :
    ((distinct history).filter fun old => old.sameConfig r) =
      (history.find? fun old => old.sameConfig r).toList := by
  induction history using List.reverseRecOn with
  | nil => rfl
  | append_singleton earlier next ih =>
    rw [distinct_append_singleton, List.filter_append, ih, List.find?_append]
    by_cases hnext : next.sameConfig r = true
    · have hsame : (fun old : Resource => old.sameConfig next) = fun old => old.sameConfig r :=
        funext fun old => sameConfig_congr_right hnext old
      rw [hsame]
      rcases hfind : earlier.find? fun old => old.sameConfig r with _ | first
      · have hany : ¬ (earlier.any fun old => old.sameConfig r) = true := by
          rw [List.any_eq_true]
          rintro ⟨old, hold, hr⟩
          exact List.find?_eq_none.1 hfind old hold hr
        rw [if_neg hany, hfind]
        simp [hnext]
      · have hfirst := List.find?_some hfind
        have hany : (earlier.any fun old => old.sameConfig r) = true :=
          List.any_eq_true.2 ⟨first, List.mem_of_find?_eq_some hfind, hfirst⟩
        rw [if_pos hany, hfind]
        simp
    · have hfind : [next].find? (fun old => old.sameConfig r) = none := by
        simp [hnext]
      rw [hfind, Option.or_none]
      split <;> simp [hnext]

end Resource

/-! ### Graphs and the calls that build them -/

/-- One call: resources, and the type that they are added under. -/
structure Addition where
  type : String
  resources : List Resource

/-- Everything that some calls add under a type, in order. -/
def Addition.history (type : String) (calls : List Addition) : List Resource :=
  (calls.filter fun call => call.type == type).flatMap (·.resources)

/-- A call adds its resources to the history of its type, and to no other. -/
theorem Addition.history_append_singleton (type : String) (calls : List Addition)
    (call : Addition) :
    history type (calls ++ [call]) =
      history type calls ++ if call.type = type then call.resources else [] := by
  unfold history
  rw [List.filter_append, List.flatMap_append]
  congr 1
  by_cases h : call.type = type <;> simp [h]

namespace ResourceGraph

open Addition (history)

/-- The graph after some calls. -/
def addAll (g : ResourceGraph) (calls : List Addition) : ResourceGraph :=
  calls.foldl (fun g call => g.add call.type call.resources) g

/-- The graph that some calls build. -/
def built (calls : List Addition) : ResourceGraph := empty.addAll calls

/-- The resources of a type, none if the graph does not have it. -/
def listed (g : ResourceGraph) (type : String) : List Resource := (g.get? type).getD []

/-- Graphs with the same resources of each type are the same. -/
theorem eq_of_get?_eq {g g' : ResourceGraph} (h : ∀ type, g.get? type = g'.get? type) : g = g' :=
  ResourceGraph.ext (SortedMap.ext_get? h)

/-- Calls are made one after the other. -/
theorem addAll_append (g : ResourceGraph) (calls calls' : List Addition) :
    g.addAll (calls ++ calls') = (g.addAll calls).addAll calls' :=
  List.foldl_append

/-- The last call is made on what the others give. -/
theorem addAll_append_singleton (g : ResourceGraph) (calls : List Addition) (call : Addition) :
    g.addAll (calls ++ [call]) = (g.addAll calls).add call.type call.resources :=
  addAll_append g calls [call]

section

variable (g : ResourceGraph) {type other : String} (added : List Resource)

/-- Resources are added to those of their type. -/
theorem get?_add_self :
    (g.add type added).get? type = some (added.foldl addNew (g.listed type)) :=
  SortedMap.get?_insert_self ..

/-- The resources of other types stay as they are. -/
theorem get?_add_of_ne (h : other ≠ type) : (g.add type added).get? other = g.get? other :=
  SortedMap.get?_insert_of_ne _ h _

/-- The list of a type grows by the resources that are new. -/
theorem listed_add_self : (g.add type added).listed type = added.foldl addNew (g.listed type) := by
  rw [listed, get?_add_self, Option.getD_some]

/-- The lists of other types stay as they are. -/
theorem listed_add_of_ne (h : other ≠ type) : (g.add type added).listed other = g.listed other := by
  rw [listed, get?_add_of_ne g added h, listed]

/-- Calls for different types can be exchanged. -/
theorem add_comm_of_ne (h : type ≠ other) (added' : List Resource) :
    (g.add type added).add other added' = (g.add other added').add type added := by
  refine eq_of_get?_eq fun t => ?_
  by_cases htype : t = type
  · subst htype
    rw [get?_add_of_ne _ _ h, get?_add_self, get?_add_self, listed_add_of_ne g added' h]
  · by_cases hother : t = other
    · subst hother
      rw [get?_add_self, get?_add_of_ne _ _ htype, get?_add_self, listed_add_of_ne g added htype]
    · rw [get?_add_of_ne _ _ hother, get?_add_of_ne _ _ htype, get?_add_of_ne _ _ htype,
        get?_add_of_ne _ _ hother]

/-- A call can be cut in two. -/
theorem add_append (added' : List Resource) :
    g.add type (added ++ added') = (g.add type added).add type added' := by
  refine eq_of_get?_eq fun t => ?_
  by_cases htype : t = type
  · subst htype
    rw [get?_add_self, get?_add_self, listed_add_self, List.foldl_append]
  · rw [get?_add_of_ne _ _ htype, get?_add_of_ne _ _ htype, get?_add_of_ne _ _ htype]

end

/-- **The resources of a type after some calls.** -/
theorem listed_addAll (g : ResourceGraph) (calls : List Addition) (type : String) :
    (g.addAll calls).listed type = (history type calls).foldl addNew (g.listed type) := by
  induction calls using List.reverseRecOn with
  | nil => rfl
  | append_singleton calls call ih =>
    rw [addAll_append_singleton, Addition.history_append_singleton, List.foldl_append, ← ih]
    by_cases h : call.type = type
    · subst h
      rw [if_pos rfl, listed_add_self]
    · rw [if_neg h, List.foldl_nil, listed_add_of_ne _ _ (Ne.symm h)]

/-- A graph has the types that it had and those of the calls. -/
theorem get?_addAll_eq_none_iff {g : ResourceGraph} {calls : List Addition} {type : String} :
    (g.addAll calls).get? type = none ↔ g.get? type = none ∧ type ∉ calls.map (·.type) := by
  induction calls using List.reverseRecOn with
  | nil => simp [addAll]
  | append_singleton calls call ih =>
    rw [addAll_append_singleton]
    by_cases h : type = call.type
    · subst h
      simp [get?_add_self]
    · rw [get?_add_of_ne _ _ h, ih]
      simp [h]

/-- **A graph has under each type what was added under it, without repetitions.** -/
theorem get?_built (calls : List Addition) (type : String) :
    (built calls).get? type =
      if type ∈ calls.map (·.type) then some (Resource.distinct (history type calls))
      else none := by
  have hlisted := listed_addAll empty calls type
  rw [show empty.listed type = [] from rfl, Resource.foldl_addNew_nil, listed] at hlisted
  split
  · rename_i hmem
    rcases hget : (built calls).get? type with _ | list
    · exact absurd hmem (get?_addAll_eq_none_iff.1 hget).2
    · rw [← hlisted, ← built, hget, Option.getD_some]
  · rename_i hmem
    exact get?_addAll_eq_none_iff.2 ⟨rfl, hmem⟩

/-- The list of a type is its history without repetitions. -/
theorem listed_built (calls : List Addition) (type : String) :
    (built calls).listed type = Resource.distinct (history type calls) := by
  rw [built, listed_addAll]
  exact Resource.foldl_addNew_nil _

/-- To repeat a call that was made before has no effect. -/
theorem add_built_of_mem {calls : List Addition} {call : Addition} (h : call ∈ calls) :
    (built calls).add call.type call.resources = built calls := by
  have hcovered : ∀ r ∈ call.resources,
      (((built calls).listed call.type).any fun old => old.sameConfig r) = true := by
    intro r hr
    have hmem : r ∈ history call.type calls :=
      List.mem_flatMap.2 ⟨call, List.mem_filter.2 ⟨h, beq_self_eq_true _⟩, hr⟩
    rw [built, listed_addAll, Resource.any_foldl_addNew]
    exact List.any_eq_true.2 ⟨r, List.mem_append_right _ hmem, r.sameConfig_refl⟩
  refine eq_of_get?_eq fun type => ?_
  by_cases htype : type = call.type
  · subst htype
    have hmem : call.type ∈ calls.map (·.type) := List.mem_map_of_mem h
    rw [get?_add_self, Resource.foldl_addNew_of_any hcovered, listed_built, get?_built,
      if_pos hmem]
  · exact get?_add_of_ne _ _ htype

/-- The resources of a graph are counted type by type. -/
theorem count_eq_sum (g : ResourceGraph) :
    g.count = ∑ type ∈ g.types.toFinset, (g.listed type).length := by
  have hentry : ∀ e ∈ g.byType.entries, e.2.length = (g.listed e.1).length := by
    intro e he
    have hget : g.get? e.1 = some e.2 := SortedMap.mem_entries_iff.1 he
    rw [listed, hget, Option.getD_some]
  have hnodup : g.types.Nodup := SortedMap.nodup_keys _
  rw [List.sum_toFinset _ hnodup]
  unfold count types SortedMap.values SortedMap.keys
  rw [List.length_flatten, List.map_map, List.map_map]
  exact congrArg List.sum (List.map_congr_left hentry)

/-- The types of a graph are those for which a call has been made. -/
theorem mem_types_built_iff {calls : List Addition} {type : String} :
    type ∈ (built calls).types ↔ type ∈ calls.map (·.type) := by
  rw [← not_iff_not, types, ← SortedMap.get?_eq_none_iff]
  exact get?_addAll_eq_none_iff.trans (and_iff_right rfl)

/-- The number of resources is the sum of the lengths of the lists. -/
theorem count_built (calls : List Addition) :
    (built calls).count =
      ∑ type ∈ (calls.map (·.type)).toFinset, (Resource.distinct (history type calls)).length := by
  have htypes : (calls.map (·.type)).toFinset = (built calls).types.toFinset := by
    ext type
    rw [List.mem_toFinset, List.mem_toFinset, mem_types_built_iff]
  rw [htypes, count_eq_sum]
  simp only [listed_built]

/-- **What is built is the history without repetitions.**  Whatever calls are made, the graph has
under each type exactly what was added under it, in order, without what agrees in name, source and
configuration with something added before. So no two resources of a type agree, and of those added
that agree with a given one it is the first that is there. A further call extends the list of its
type and leaves the others as they are. Calls for different types can be exchanged wherever they
are made, a call made before can be left out, and one call can be made in two. The resources of a
graph are as many as there are in these lists. -/
theorem built_without_repetitions (calls : List Addition) :
    (∀ type, (built calls).get? type =
      if type ∈ calls.map (·.type) then some (Resource.distinct (history type calls)) else none) ∧
    (∀ type, ((built calls).listed type).Pairwise fun a b => ¬ a.sameConfig b = true) ∧
    (∀ type r, (((built calls).listed type).filter fun old => old.sameConfig r) =
      ((history type calls).find? fun old => old.sameConfig r).toList) ∧
    (∀ call : Addition,
      (built calls).listed call.type <+: (built (calls ++ [call])).listed call.type ∧
      ∀ other ≠ call.type, (built (calls ++ [call])).get? other = (built calls).get? other) ∧
    (∀ (call call' : Addition) (later : List Addition), call.type ≠ call'.type →
      built (calls ++ call :: call' :: later) = built (calls ++ call' :: call :: later)) ∧
    (∀ call ∈ calls, ∀ later, built (calls ++ call :: later) = built (calls ++ later)) ∧
    (∀ type added added' later, built (calls ++ ⟨type, added ++ added'⟩ :: later) =
      built (calls ++ ⟨type, added⟩ :: ⟨type, added'⟩ :: later)) ∧
    (built calls).count =
      ∑ type ∈ (calls.map (·.type)).toFinset, (Resource.distinct (history type calls)).length := by
  have hstep (call : Addition) :
      built (calls ++ [call]) = (built calls).add call.type call.resources :=
    addAll_append_singleton empty calls call
  refine ⟨get?_built calls, fun type => ?_, fun type r => ?_, fun call => ⟨?_, fun other h => ?_⟩,
    fun call call' later h => ?_, fun call h later => ?_, fun type added added' later => ?_,
    count_built calls⟩
  · rw [listed_built]
    exact Resource.pairwise_distinct _
  · rw [listed_built]
    exact Resource.filter_distinct _ r
  · rw [hstep, listed_add_self]
    exact Resource.isPrefix_foldl_addNew _ _
  · rw [hstep, get?_add_of_ne _ _ h]
  · have hcomm := (built calls).add_comm_of_ne call.resources h call'.resources
    rw [built, built, addAll_append, addAll_append]
    exact congrArg (addAll · later) hcomm
  · rw [built, built, addAll_append, addAll_append]
    exact congrArg (addAll · later) (add_built_of_mem h)
  · rw [built, built, addAll_append, addAll_append]
    exact congrArg (addAll · later) ((built calls).add_append added added')

end ResourceGraph

end Rulebook
