/-
# Places in a graph

A resource stands in a graph at a `Place`: its type and its index among the resources of that
type. Ids need not be distinct, so it is the place that tells resources apart.

Two graphs that differ only in what the resources at some places say of rules and severities
(`ResourceGraph.DiffersOnlyAt`) become one and the same graph once these resources are silenced
(`DiffersOnlyAt.silence_eq`). Looking an id up in the silenced graph finds the places that it
finds in the graph itself, since a resource keeps its id (`placesOf_mapAt`).
-/

import Rulebook.Resource.Graph
import Rulebook.Proofs.SortedMap

namespace Rulebook

/-- Where a resource stands in a graph: its index among the resources of a type. -/
structure Place where
  type : String
  index : Nat
deriving DecidableEq, Repr

namespace Resource

/-- The resource, saying nothing of rules and severities. -/
def silent (r : Resource) : Resource :=
  { r with skipRules := [], minSeverity := none, maxSeverity := none }

/-- The resource, silent if it stands at one of some places. -/
def silentAt (changed : Place → Bool) (place : Place) (r : Resource) : Resource :=
  if changed place then r.silent else r

/-- Silencing a resource leaves its id as it is. -/
theorem id_silentAt (changed : Place → Bool) (place : Place) (r : Resource) :
    (r.silentAt changed place).id = r.id := by
  unfold silentAt
  split
  · rfl
  · rfl

end Resource

namespace ResourceGraph

/-- The resource at a place. -/
def at? (g : ResourceGraph) (place : Place) : Option Resource :=
  (g.get? place.type).bind fun found => found[place.index]?

/-- Two graphs have the same types and the same resources, except that resources at the changed
places may say other things of rules and severities. -/
structure DiffersOnlyAt (changed : Place → Bool) (g g' : ResourceGraph) : Prop where
  types_eq : g.types = g'.types
  elsewhere : ∀ place, changed place = false → g.at? place = g'.at? place
  there : ∀ place, changed place = true →
    (g.at? place).map Resource.silent = (g'.at? place).map Resource.silent

/-- Each resource of a type with its place. -/
def placed (type : String) (found : List Resource) : List (Place × Resource) :=
  found.mapIdx fun index r => (⟨type, index⟩, r)

/-- The graph with each resource changed in a way that depends on its place. -/
def mapAt (f : Place → Resource → Resource) (g : ResourceGraph) : ResourceGraph :=
  ⟨g.byType.map fun type found => (placed type found).map fun e => f e.1 e.2⟩

/-- The graph in which the resources at some places are silent. -/
def silence (changed : Place → Bool) (g : ResourceGraph) : ResourceGraph :=
  g.mapAt (Resource.silentAt changed)

/-- The resources with an id, looked up under the type that the id names, with their places. -/
def placesOf (g : ResourceGraph) (id : String) : List (Place × Resource) :=
  match Resource.splitId? id with
  | none => []
  | some (type, _) => (placed type ((g.get? type).getD [])).filter fun e => e.2.id == id

/-! ### The resources of a graph, place by place -/

/-- What stands at an index is placed there. -/
theorem getElem?_placed (type : String) (found : List Resource) (index : Nat) :
    (placed type found)[index]? = found[index]?.map fun r => (⟨type, index⟩, r) :=
  List.getElem?_mapIdx

/-- Without their places they are the resources that have been placed. -/
theorem map_snd_placed (type : String) (found : List Resource) :
    (placed type found).map (·.2) = found := by
  refine List.ext_getElem? fun index => ?_
  rw [List.getElem?_map, getElem?_placed, Option.map_map]
  exact Option.map_id'

/-- **A graph is known by its types and by the resource at each place.** -/
theorem ext_at? {g g' : ResourceGraph} (htypes : g.types = g'.types)
    (hat : ∀ place, g.at? place = g'.at? place) : g = g' := by
  refine ResourceGraph.ext (SortedMap.ext_get? fun type => ?_)
  show g.get? type = g'.get? type
  rcases hfound : g.get? type with _ | found
  · have hnone : type ∉ g.types := SortedMap.get?_eq_none_iff.1 hfound
    have hnone' : type ∉ g'.types := htypes ▸ hnone
    exact (SortedMap.get?_eq_none_iff.2 hnone').symm
  · have hmem : type ∈ g.types := SortedMap.mem_keys_iff.2 ⟨found, hfound⟩
    have hmem' : type ∈ g'.types := htypes ▸ hmem
    obtain ⟨found', hfound'⟩ := SortedMap.mem_keys_iff.1 hmem'
    have hfound' : g'.get? type = some found' := hfound'
    rw [hfound']
    refine congrArg some (List.ext_getElem? fun index => ?_)
    have hplace := hat ⟨type, index⟩
    unfold at? at hplace
    rw [hfound, hfound'] at hplace
    exact hplace

/-- The resources found under an id are those at its places. -/
theorem findAllById_eq_placesOf (g : ResourceGraph) (id : String) :
    ((g.findAllById id).toOption.getD []) = (g.placesOf id).map (·.2) := by
  unfold findAllById placesOf
  rcases Resource.splitId? id with _ | ⟨type, name⟩
  · rfl
  · dsimp only
    have hfilter := List.filter_map (f := fun e : Place × Resource => e.2)
      (p := fun r => r.id == id) (l := placed type ((g.get? type).getD []))
    rw [map_snd_placed] at hfilter
    exact hfilter

/-! ### Changing resources at their places -/

section

variable (f : Place → Resource → Resource)

/-- The resources of a type are changed place by place. -/
theorem get?_mapAt (g : ResourceGraph) (type : String) :
    (g.mapAt f).get? type =
      (g.get? type).map fun found => (placed type found).map fun e => f e.1 e.2 :=
  SortedMap.get?_map _ g.byType type

/-- Changing resources leaves the types as they are. -/
theorem types_mapAt (g : ResourceGraph) : (g.mapAt f).types = g.types := by
  simp only [types, mapAt, SortedMap.keys, SortedMap.map, List.map_map, Function.comp_def]

/-- What stands at a place is changed as the place says. -/
theorem at?_mapAt (g : ResourceGraph) (place : Place) :
    (g.mapAt f).at? place = (g.at? place).map (f place) := by
  unfold at?
  rw [get?_mapAt]
  rcases g.get? place.type with _ | found
  · rfl
  · rw [Option.map_some, Option.bind_some, Option.bind_some, List.getElem?_map, getElem?_placed,
      Option.map_map]
    rfl

/-- Changing resources leaves each at its place. -/
theorem placed_map_placed (type : String) (found : List Resource) :
    placed type ((placed type found).map fun e => f e.1 e.2) =
      (placed type found).map fun e => (e.1, f e.1 e.2) := by
  refine List.ext_getElem? fun index => ?_
  rw [getElem?_placed, List.getElem?_map, List.getElem?_map, getElem?_placed, Option.map_map,
    Option.map_map, Option.map_map]
  rfl

/-- **An id is found at the same places once resources are changed**, if each keeps its id. -/
theorem placesOf_mapAt (hid : ∀ place r, (f place r).id = r.id) (g : ResourceGraph)
    (id : String) :
    (g.mapAt f).placesOf id = (g.placesOf id).map fun e => (e.1, f e.1 e.2) := by
  unfold placesOf
  rcases Resource.splitId? id with _ | ⟨type, name⟩
  · rfl
  · dsimp only
    rw [get?_mapAt]
    rcases g.get? type with _ | found
    · rfl
    · rw [Option.map_some, Option.getD_some, Option.getD_some, placed_map_placed, List.filter_map]
      simp only [Function.comp_def, hid]

end

/-! ### Graphs that differ in some directives and severities -/

section

variable {changed : Place → Bool}

/-- Changing what the resources at some places say of rules and severities makes a graph that
differs only there. -/
theorem differsOnlyAt_mapAt {f : Place → Resource → Resource}
    (hsame : ∀ place r, changed place = false → f place r = r)
    (hsilent : ∀ place r, (f place r).silent = r.silent) (g : ResourceGraph) :
    g.DiffersOnlyAt changed (g.mapAt f) where
  types_eq := (types_mapAt f g).symm
  elsewhere place hplace := by
    have hf : f place = id := funext fun r => hsame place r hplace
    rw [at?_mapAt, hf, Option.map_id, id]
  there place _ := by
    rw [at?_mapAt, Option.map_map]
    exact congrArg (Option.map · (g.at? place)) (funext fun r => (hsilent place r).symm)

/-- **Graphs that differ only at some places are the same graph once silenced there.** -/
theorem DiffersOnlyAt.silence_eq {g g' : ResourceGraph} (h : g.DiffersOnlyAt changed g') :
    g.silence changed = g'.silence changed := by
  refine ext_at? ?_ fun place => ?_
  · rw [silence, silence, types_mapAt, types_mapAt, h.types_eq]
  · rw [silence, silence, at?_mapAt, at?_mapAt]
    rcases hc : changed place with _ | _
    · rw [h.elsewhere place hc]
    · have hsilent : Resource.silentAt changed place = Resource.silent :=
        funext fun r => if_pos hc
      rw [hsilent]
      exact h.there place hc

end

end ResourceGraph

end Rulebook
