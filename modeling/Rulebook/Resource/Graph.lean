/-
# Resource graphs

Specification §6 (External Interfaces).

A graph holds resources under their types, each type's resources in the order in which
they were added; a resource with the name, source and configuration of an earlier one of
its list is not added again. `ResourceView` is what a scan asks of any such collection.
-/

import Rulebook.Resource

namespace Rulebook

/-- Resources under their types. -/
@[ext]
structure ResourceGraph where
  byType : SortedMap (List Resource)

namespace ResourceGraph

/-- The graph without resources. -/
def empty : ResourceGraph := ⟨.empty⟩

/-- The resources of a type. -/
def get? (g : ResourceGraph) (type : String) : Option (List Resource) := g.byType.get? type

/-- A list with a resource at its end, unless the list has the same configuration already. -/
def addNew (list : List Resource) (r : Resource) : List Resource :=
  if list.any fun old => old.sameConfig r then list else list ++ [r]

/-- The graph with resources added under a type, in order. -/
def add (g : ResourceGraph) (type : String) (resources : List Resource) : ResourceGraph :=
  ⟨g.byType.insert type (resources.foldl addNew ((g.get? type).getD []))⟩

/-- The number of resources of all types. -/
def count (g : ResourceGraph) : Nat := g.byType.values.flatten.length

/-- The graph has no type. -/
def isEmpty (g : ResourceGraph) : Bool := g.byType.isEmpty

/-- The types, in ascending order. -/
def types (g : ResourceGraph) : List String := g.byType.keys

/-- All resources with an id, looked up under the type that the id names. -/
def findAllById (g : ResourceGraph) (id : String) : Except ResourceError (List Resource) :=
  match Resource.splitId? id with
  | none => .error (.invalidId id)
  | some (type, _) => .ok (((g.get? type).getD []).filter fun r => r.id == id)

/-- Reads a graph. -/
def decode : Json.Decoder ResourceGraph :=
  fun s => (Json.Decode.map (Json.Decode.list Resource.decode) s).map ResourceGraph.mk

/-- The written form. -/
def encode (g : ResourceGraph) : Json :=
  .object (g.byType.entries.map fun e => (e.1, .array (e.2.map Resource.encode)))

/-- The value that rules are evaluated on. -/
def inputDocument (g : ResourceGraph) : Json.Value := .ofJson g.encode

end ResourceGraph

/-- What a scan asks of a collection of resources. -/
structure ResourceView where
  /-- The types that occur. -/
  types : List String
  /-- All resources with an id. -/
  findAllById : String → Except ResourceError (List Resource)
  /-- The value that rules are evaluated on. -/
  inputDocument : Except ResourceError Json.Value

/-- A graph as a scan sees it. -/
def ResourceGraph.view (g : ResourceGraph) : ResourceView where
  types := g.types
  findAllById := g.findAllById
  inputDocument := .ok g.inputDocument

end Rulebook
