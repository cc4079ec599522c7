/-
# Rules

Specification §3 (Data Model) and §6 (External Interfaces).

A `Rule` is what the metadata file next to a rule body says: the rule's names, the body
file and the arguments it is rendered with, the severity, and what the rule applies to.
A rule has two identifiers, the canonical `id`, which may be empty, and the older
`referenceId`, under which active rules are kept.
-/

import Rulebook.Severity

namespace Rulebook

/-- The metadata of a rule. -/
@[ext]
structure Rule where
  /-- The rule's name and that of its module; it must not contain a dot. -/
  name : String
  /-- The body file, relative to the metadata file's directory. -/
  file : String
  /-- What the body is rendered with. -/
  templateArgs : SortedMap Json.Value
  severity : Severity
  description : String
  referenceId : String
  category : String
  version : UInt32
  id : String
  resourceType : String
  policyType : String

namespace Rule

/-- The name that metadata files end in. -/
def metadataSuffix : String := ".json"

/-- The argument that holds the rule's name. -/
def nameArg : String := "name"

/-- The fields of a metadata file. -/
def fields : Json.Fields Rule :=
  Rule.mk
    <$> .field "name" Json.Decode.string
    <*> .field "file" Json.Decode.string
    <*> .field "template_args" (Json.Decode.map Json.Decode.value) (some .empty)
    <*> .field "severity" Severity.decode
    <*> .field "description" Json.Decode.string (some "")
    <*> .field "reference_id" Json.Decode.string
    <*> .field "category" Json.Decode.string (some "")
    <*> .field "version" Json.Decode.u32 (some 0)
    <*> .field "id" Json.Decode.string (some "")
    <*> .field "resource_type" Json.Decode.string (some "")
    <*> .field "policy_type" Json.Decode.string (some "")

/-- Reads a rule. -/
def decode : Json.Decoder Rule := Json.Decode.record "RuleDescriptor" fields

/-- Reads the contents of a metadata file. -/
def ofBytes (bytes : List UInt8) : Json.Decoded Rule := Json.decodeBytes decode bytes

/-- Arguments as a tree. -/
def encodeArgs (args : SortedMap Json.Value) : Json :=
  .object (args.entries.map fun e => (e.1, e.2.json))

/-- The written form. -/
def encode (r : Rule) : Json :=
  .object
    [ ("name", .string r.name),
      ("file", .string r.file),
      ("template_args", encodeArgs r.templateArgs),
      ("severity", r.severity.encode),
      ("description", .string r.description),
      ("reference_id", .string r.referenceId),
      ("category", .string r.category),
      ("version", Json.nat r.version.toNat),
      ("id", .string r.id),
      ("resource_type", .string r.resourceType),
      ("policy_type", .string r.policyType) ]

/-- The name contains a dot, which separates the parts of a query path. -/
def hasReservedName (r : Rule) : Bool := r.name.toList.contains '.'

/-- The rule with its name among its arguments, unless an argument of that name is set. -/
def withNameArg (r : Rule) : Rule :=
  if r.templateArgs.contains nameArg then r
  else { r with templateArgs := r.templateArgs.insert nameArg (.string r.name) }

end Rule

end Rulebook
