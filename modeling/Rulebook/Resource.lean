/-
# Resources

Specification §6 (External Interfaces).

A resource is one configured thing of an infrastructure: a bucket, a role, a pod. Its
own directives may suppress a rule for it (`SkipRule`) or raise, cap or mute the severity
of its findings. An id has the form `Type.Name`, split at the first dot.
-/

import Rulebook.Severity

namespace Rulebook

/-- A directive that suppresses one rule for a resource. -/
structure SkipRule where
  rule : String
  comment : String
deriving DecidableEq, Repr

/-- A resource. -/
@[ext]
structure Resource where
  id : String
  name : String
  type : String
  /-- The file that the resource comes from. -/
  source : String
  line : UInt64
  config : Json.Value
  skipRules : List SkipRule
  minSeverity : Option Severity
  maxSeverity : Option SeverityCap

/-- A resource cannot be looked up under an id. -/
inductive ResourceError where
  | invalidId (id : String)
deriving DecidableEq, Repr

/-- The wording of a failed look-up. -/
def ResourceError.message : ResourceError → String
  | invalidId id => "resource ID has an invalid format: " ++ id

namespace SkipRule

/-- Reads a directive. -/
def decode : Json.Decoder SkipRule :=
  Json.Decode.record "SkipRule"
    (SkipRule.mk
      <$> .field "rule" Json.Decode.string
      <*> .field "comment" Json.Decode.string (some ""))

/-- The written form. -/
def encode (s : SkipRule) : Json :=
  .object [("rule", .string s.rule), ("comment", .string s.comment)]

end SkipRule

namespace Resource

/-- A resource with the conventional id and an empty configuration. -/
def ofTypeName (type name : String) : Resource where
  id := type ++ "." ++ name
  name := name
  type := type
  source := ""
  line := 0
  config := .null
  skipRules := []
  minSeverity := none
  maxSeverity := none

/-- Same name, same source and same configuration. -/
def sameConfig (a b : Resource) : Bool :=
  a.name == b.name && a.source == b.source && a.config.same b.config

/-- The fields of a written resource. -/
def fields : Json.Fields Resource :=
  Resource.mk
    <$> .field "id" Json.Decode.string
    <*> .field "name" Json.Decode.string
    <*> .field "type" Json.Decode.string
    <*> .field "source" Json.Decode.string (some "")
    <*> .field "line" Json.Decode.size (some 0)
    <*> .field "config" Json.Decode.value (some .null)
    <*> .field "skip_rules" (Json.Decode.list SkipRule.decode) (some [])
    <*> .field "min_severity" (Json.Decode.optional Severity.decode) (some none)
    <*> .field "max_severity" (Json.Decode.optional SeverityCap.decode) (some none)

/-- Reads a resource. -/
def decode : Json.Decoder Resource := Json.Decode.record "ResourceConfig" fields

/-- The written form. Directives and severities are left out where there are none. -/
def encode (r : Resource) : Json :=
  .object
    ([ ("id", .string r.id),
       ("name", .string r.name),
       ("type", .string r.type),
       ("source", .string r.source),
       ("line", Json.nat r.line.toNat),
       ("config", r.config.json) ]
      ++ (if r.skipRules = [] then []
          else [("skip_rules", Json.array (r.skipRules.map SkipRule.encode))])
      ++ (r.minSeverity.map fun s => ("min_severity", s.encode)).toList
      ++ (r.maxSeverity.map fun c => ("max_severity", c.encode)).toList)

/-- The type and the name in an id, if both are there. -/
def splitId? (id : String) : Option (String × String) :=
  let cs := id.toList
  let type := cs.takeWhile (· != '.')
  match cs.dropWhile (· != '.') with
  | [] => none
  | _ :: name =>
    if type = [] ∨ name = [] then none else some (String.ofList type, String.ofList name)

end Resource

end Rulebook
