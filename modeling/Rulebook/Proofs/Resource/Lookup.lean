/-
# Looking resources up

Specification §6 (External Interfaces).

An id is looked up under one type only, the part of it before its first dot. In a graph whose
resources are filed under the types of their ids (`Resource.FiledUnder`) this misses nothing: an
id has one first dot, so whatever has it stands under that type, and what is found is what a scan
of the whole graph finds (`ResourceGraph.findAllById_eq_ok`). Names may have dots, types may not.

Adding resources keeps a graph filed, and it keeps each of them findable. A resource that is not
added agrees with one that is there in name, source and configuration. Ids are not compared, but
under one type the same name makes the same id.
-/

import Rulebook.Proofs.Resource.Added
import Mathlib.Data.List.TakeWhile

namespace Rulebook

namespace Resource

/-! ### Ids -/

/-- Nothing can be looked up under such an id: there is no dot in it, or nothing before its first
dot, or nothing behind it. -/
def MalformedId (id : String) : Prop :=
  '.' ∉ id.toList ∨
    ∃ before after, id.toList = before ++ '.' :: after ∧ '.' ∉ before ∧ (before = [] ∨ after = [])

/-- A text without a dot is not split. -/
theorem splitId?_of_not_mem {id : String} (h : '.' ∉ id.toList) : splitId? id = none := by
  have hdrop : id.toList.dropWhile (· != '.') = [] :=
    List.dropWhile_eq_nil_iff.2 fun c hc => bne_iff_ne.2 fun heq => h (heq ▸ hc)
  unfold splitId?
  dsimp only
  rw [hdrop]

/-- An id with a dot is split at the first one. -/
theorem splitId?_of_toList_eq {id : String} {before after : List Char}
    (h : id.toList = before ++ '.' :: after) (hdot : '.' ∉ before) :
    splitId? id =
      if before = [] ∨ after = [] then none
      else some (String.ofList before, String.ofList after) := by
  have hbefore : ∀ c ∈ before, (c != '.') = true :=
    fun c hc => bne_iff_ne.2 fun heq => hdot (heq ▸ hc)
  have hdrop : id.toList.dropWhile (· != '.') = '.' :: after := by
    rw [h, List.dropWhile_append_of_pos hbefore]
    rfl
  have htake : id.toList.takeWhile (· != '.') = before := by
    rw [h, List.takeWhile_append_of_pos hbefore]
    exact List.append_nil before
  unfold splitId?
  dsimp only
  rw [hdrop, htake]

/-- A text is not split exactly if it is malformed as an id. -/
theorem splitId?_eq_none_iff {id : String} : splitId? id = none ↔ MalformedId id := by
  by_cases hmem : '.' ∈ id.toList
  · obtain ⟨before, after, h, hdot⟩ := List.eq_append_cons_of_mem hmem
    rw [splitId?_of_toList_eq h hdot]
    constructor
    · intro hnone
      refine .inr ⟨before, after, h, hdot, ?_⟩
      by_contra hne
      rw [if_neg hne] at hnone
      cases hnone
    · rintro (hnot | ⟨before', after', h', hdot', hempty⟩)
      · exact absurd hmem hnot
      · have hsplit := splitId?_of_toList_eq h' hdot'
        rw [if_pos hempty, splitId?_of_toList_eq h hdot] at hsplit
        exact hsplit
  · exact ⟨fun _ => .inl hmem, fun _ => splitId?_of_not_mem hmem⟩

/-- A resource has an id of a type: the type, a dot and the resource's own name. -/
structure FiledUnder (type : String) (r : Resource) : Prop where
  id_eq : r.id = type ++ "." ++ r.name
  type_ne : type ≠ ""
  undotted : '.' ∉ type.toList
  name_ne : r.name ≠ ""

/-- A resource with the conventional id is filed under its type, wherever it is from. -/
theorem filedUnder_ofTypeName {type name : String} (htype : type ≠ "") (hdot : '.' ∉ type.toList)
    (hname : name ≠ "") (source : String) :
    { ofTypeName type name with source }.FiledUnder type :=
  ⟨rfl, htype, hdot, hname⟩

/-- The id of a filed resource is split into what it was made from. -/
theorem FiledUnder.splitId? {type : String} {r : Resource} (h : r.FiledUnder type) :
    splitId? r.id = some (type, r.name) := by
  have hid : r.id.toList = type.toList ++ '.' :: r.name.toList := by
    rw [h.id_eq, String.toList_append, String.toList_append, List.append_assoc]
    rfl
  have hne : ¬ (type.toList = [] ∨ r.name.toList = []) := by
    rw [String.toList_eq_nil_iff, String.toList_eq_nil_iff]
    exact not_or.2 ⟨h.type_ne, h.name_ne⟩
  rw [splitId?_of_toList_eq hid h.undotted, if_neg hne, String.ofList_toList, String.ofList_toList]

end Resource

/-- A call files each resource under the type of its id. -/
def Addition.Filed (call : Addition) : Prop := ∀ r ∈ call.resources, r.FiledUnder call.type

/-- What is in the history of a type is filed under it. -/
theorem Addition.filedUnder_of_mem_history {calls : List Addition}
    (h : ∀ call ∈ calls, call.Filed) {type : String} {r : Resource} (hr : r ∈ history type calls) :
    r.FiledUnder type := by
  obtain ⟨call, hcall, hmem⟩ := List.mem_flatMap.1 hr
  obtain ⟨hcall, htype⟩ := List.mem_filter.1 hcall
  exact beq_iff_eq.1 htype ▸ h call hcall r hmem

namespace ResourceGraph

open Addition (history)

variable {g : ResourceGraph}

/-- All resources of a graph, type by type. -/
def resources (g : ResourceGraph) : List Resource := g.byType.values.flatten

/-- Each resource of a graph stands under the type of its id. -/
def Filed (g : ResourceGraph) : Prop := ∀ type, ∀ r ∈ g.listed type, r.FiledUnder type

/-- The resources of a graph are those in its lists. -/
theorem mem_resources_iff {r : Resource} : r ∈ g.resources ↔ ∃ type, r ∈ g.listed type := by
  rw [resources, SortedMap.values, List.mem_flatten]
  constructor
  · rintro ⟨found, hfound, hr⟩
    obtain ⟨e, he, rfl⟩ := List.mem_map.1 hfound
    have hget : g.get? e.1 = some e.2 := SortedMap.mem_entries_iff.1 he
    exact ⟨e.1, by rwa [listed, hget, Option.getD_some]⟩
  · rintro ⟨type, hr⟩
    rcases hget : g.get? type with _ | found
    · rw [listed, hget] at hr
      cases hr
    · rw [listed, hget, Option.getD_some] at hr
      exact ⟨found, List.mem_map.2 ⟨(type, found), SortedMap.mem_entries_iff.2 hget, rfl⟩, hr⟩

/-! ### Looking up is scanning -/

/-- Looking for a malformed id is an error. -/
theorem findAllById_eq_error {id : String} (h : Resource.MalformedId id) :
    g.findAllById id = .error (.invalidId id) := by
  unfold findAllById
  rw [Resource.splitId?_eq_none_iff.2 h]

/-- **What is looked up is what a scan finds.** -/
theorem Filed.findAllById_eq_ok (h : g.Filed) {id : String} (hid : ¬ Resource.MalformedId id) :
    g.findAllById id = .ok (g.resources.filter fun r => r.id == id) := by
  rcases hsplit : Resource.splitId? id with _ | ⟨type, name⟩
  · exact absurd (Resource.splitId?_eq_none_iff.1 hsplit) hid
  · have helsewhere : ∀ e ∈ g.byType.entries, e.1 ≠ type →
        (e.2.filter fun r => r.id == id) = [] := by
      intro e he hne
      have hget : g.get? e.1 = some e.2 := SortedMap.mem_entries_iff.1 he
      refine List.filter_eq_nil_iff.2 fun r hr heq => hne ?_
      have hfiled : r.FiledUnder e.1 := h e.1 r (by rwa [listed, hget, Option.getD_some])
      have hsame := hfiled.splitId?
      rw [beq_iff_eq.1 heq, hsplit] at hsame
      exact (Prod.mk.inj (Option.some.inj hsame)).1.symm
    unfold findAllById
    rw [hsplit]
    exact congrArg Except.ok (g.byType.ascending.filter_flatten helsewhere).symm

/-- No resource of a filed graph has a malformed id. -/
theorem Filed.not_malformedId (h : g.Filed) {r : Resource} (hr : r ∈ g.resources) :
    ¬ Resource.MalformedId r.id := by
  obtain ⟨type, hr⟩ := mem_resources_iff.1 hr
  rw [← Resource.splitId?_eq_none_iff, (h type r hr).splitId?]
  exact Option.some_ne_none _

/-! ### Looking up what was added -/

/-- **Calls that file resources keep a graph filed.** -/
theorem Filed.addAll (hg : g.Filed) {calls : List Addition} (h : ∀ call ∈ calls, call.Filed) :
    (g.addAll calls).Filed := by
  intro type r hr
  rw [listed_addAll] at hr
  rcases List.mem_append.1 ((Resource.sublist_foldl_addNew _ _).subset hr) with hold | hadded
  · exact hg type r hold
  · exact Addition.filedUnder_of_mem_history h hadded

/-- Whatever was there or was added agrees with something that is there. -/
theorem exists_listed_addAll {calls : List Addition} {type : String} {r : Resource}
    (h : r ∈ g.listed type ++ history type calls) :
    ∃ kept ∈ (g.addAll calls).listed type, kept.sameConfig r = true := by
  have hany : ((g.listed type ++ history type calls).any fun old => old.sameConfig r) = true :=
    List.any_eq_true.2 ⟨r, h, r.sameConfig_refl⟩
  rw [← Resource.any_foldl_addNew, ← listed_addAll] at hany
  exact List.any_eq_true.1 hany

/-- **Looking an id up agrees with scanning the graph, whatever is added.**  In a graph whose
resources are filed under the types of their ids, looking up an id gives the resources of the
whole graph that have it, in their order. It is refused for a malformed id alone, which no
resource has. And after any calls that file resources in this way, every resource that was there
or was added is represented: what is found under its id has one with its name, its source and the
same configuration. -/
theorem findAllById_agrees_with_scan (hg : g.Filed) :
    (∀ id, Resource.MalformedId id →
      g.findAllById id = .error (.invalidId id) ∧ ∀ r ∈ g.resources, r.id ≠ id) ∧
    (∀ id, ¬ Resource.MalformedId id →
      g.findAllById id = .ok (g.resources.filter fun r => r.id == id)) ∧
    ∀ calls : List Addition, (∀ call ∈ calls, call.Filed) →
      ∀ r, (r ∈ g.resources ∨ ∃ call ∈ calls, r ∈ call.resources) →
        ∃ found, (g.addAll calls).findAllById r.id = .ok found ∧
          ∃ kept ∈ found, kept.name = r.name ∧ kept.source = r.source ∧
            kept.config.same r.config = true := by
  refine ⟨fun id hid => ⟨findAllById_eq_error hid, fun r hr heq => ?_⟩,
    fun id hid => hg.findAllById_eq_ok hid, fun calls hcalls r hr => ?_⟩
  · exact hg.not_malformedId hr (heq ▸ hid)
  · obtain ⟨type, hr⟩ : ∃ type, r ∈ g.listed type ++ history type calls := by
      rcases hr with hr | ⟨call, hcall, hr⟩
      · obtain ⟨type, hr⟩ := mem_resources_iff.1 hr
        exact ⟨type, List.mem_append_left _ hr⟩
      · have hmem : r ∈ history call.type calls :=
          List.mem_flatMap.2 ⟨call, List.mem_filter.2 ⟨hcall, beq_self_eq_true _⟩, hr⟩
        exact ⟨call.type, List.mem_append_right _ hmem⟩
    have hfiled : r.FiledUnder type := by
      rcases List.mem_append.1 hr with hold | hadded
      · exact hg type r hold
      · exact Addition.filedUnder_of_mem_history hcalls hadded
    obtain ⟨kept, hkept, hsame⟩ := exists_listed_addAll hr
    have hafter : (g.addAll calls).Filed := hg.addAll hcalls
    have hname : kept.name = r.name := (Resource.sameConfig_iff.1 hsame).1
    have hid : kept.id = r.id := by
      rw [(hafter type kept hkept).id_eq, hfiled.id_eq, hname]
    have hmem : kept ∈ (g.addAll calls).resources := mem_resources_iff.2 ⟨type, hkept⟩
    have hok := hafter.findAllById_eq_ok (hid ▸ hafter.not_malformedId hmem)
    rw [Resource.sameConfig, Bool.and_eq_true, Bool.and_eq_true, beq_iff_eq, beq_iff_eq] at hsame
    exact ⟨_, hok, kept, List.mem_filter.2 ⟨hmem, beq_iff_eq.2 hid⟩, hname, hsame.1.2, hsame.2⟩

end ResourceGraph

/-! ### A name with dots -/

namespace DottedNames

/-- A bucket that is declared in a file. -/
def bucket (name source : String) : Resource := { Resource.ofTypeName "s3" name with source }

/-- One name in two files, and another one that begins like it. -/
def calls : List Addition :=
  [⟨"s3", [bucket "logs.eu" "a", bucket "logs" "a", bucket "logs.eu" "b"]⟩]

/-- The first bucket again, at another line. -/
def again : Addition := ⟨"s3", [{ bucket "logs.eu" "a" with line := 7 }]⟩

/-- Every call files its resources. -/
theorem filed_calls : ∀ call ∈ calls, call.Filed := by
  intro call hcall r hr
  have hbucket (name source : String) (h : name ≠ "") : (bucket name source).FiledUnder "s3" :=
    Resource.filedUnder_ofTypeName (by decide) (by decide) h source
  obtain rfl := List.mem_singleton.1 hcall
  rcases hr with _ | ⟨_, _ | ⟨_, _ | ⟨_, hr⟩⟩⟩
  · exact hbucket _ _ (by decide)
  · exact hbucket _ _ (by decide)
  · exact hbucket _ _ (by decide)
  · cases hr

/-- The graph that the calls build is filed. -/
theorem filed_built : (ResourceGraph.built calls).Filed := by
  have hempty : ResourceGraph.empty.Filed := fun type r hr => by cases hr
  exact hempty.addAll filed_calls

/-- The hypotheses of `findAllById_agrees_with_scan` are satisfiable: the buckets of both files are
found, an id that ends at its dot is refused, and the bucket that is declared a second time is
represented by the first one. -/
theorem findAllById_agrees_with_scan_dottedNames :
    (ResourceGraph.built calls).Filed ∧ again.Filed ∧
      ¬ Resource.MalformedId "s3.logs.eu" ∧ Resource.MalformedId "s3." ∧
      (ResourceGraph.built calls).findAllById "s3.logs.eu" =
        .ok [bucket "logs.eu" "a", bucket "logs.eu" "b"] ∧
      (ResourceGraph.built calls).findAllById "s3." = .error (.invalidId "s3.") ∧
      ∃ found, ((ResourceGraph.built calls).addAll [again]).findAllById "s3.logs.eu" = .ok found ∧
        ∃ kept ∈ found, kept.name = "logs.eu" ∧ kept.source = "a" ∧
          kept.config.same .null = true := by
  have hagain : again.Filed := by
    intro r hr
    obtain rfl := List.mem_singleton.1 hr
    exact ⟨rfl, by decide, by decide, by decide⟩
  have hid : ¬ Resource.MalformedId "s3.logs.eu" := by
    rw [← Resource.splitId?_eq_none_iff]
    decide
  have hbad : Resource.MalformedId "s3." := Resource.splitId?_eq_none_iff.1 (by decide)
  obtain ⟨hrefused, hfound, hadded⟩ := ResourceGraph.findAllById_agrees_with_scan filed_built
  refine ⟨filed_built, hagain, hid, hbad, (hfound _ hid).trans rfl, (hrefused _ hbad).1,
    hadded [again] ?_ { bucket "logs.eu" "a" with line := 7 } (.inr ⟨again, ?_, ?_⟩)⟩
  · intro call hcall
    obtain rfl := List.mem_singleton.1 hcall
    exact hagain
  · exact List.mem_singleton_self again
  · exact List.mem_singleton_self _

end DottedNames

end Rulebook
