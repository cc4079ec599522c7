/-
# Findings and passes

Specification §4.5 (Evaluator & Reconciler) and §6 (External Interfaces).

A `Violation` tells that a rule matched a resource: it copies what the rule and the
resource say, with the severity that the finding has after the resource's own bounds. A
skipped finding also carries the comment of the directive that suppresses it. A
`PassedRule` tells that a rule matched nothing.
-/

import Rulebook.Rule
import Rulebook.Resource

namespace Rulebook

/-- A rule that matched a resource. -/
@[ext]
structure Violation where
  ruleName : String
  ruleId : String
  referenceId : String
  description : String
  category : String
  severity : Severity
  /-- The body file as the rule names it. -/
  ruleFile : String
  resourceName : String
  resourceType : String
  /-- The file that the resource comes from. -/
  file : String
  line : UInt64
  resourceConfig : Json.Value
  /-- Why the finding is skipped. -/
  comment : Option String

namespace Violation

/-- What a rule and a resource say, with a severity. -/
def of (rule : Rule) (resource : Resource) (severity : Severity) : Violation where
  ruleName := rule.name
  ruleId := rule.id
  referenceId := rule.referenceId
  description := rule.description
  category := rule.category
  severity := severity
  ruleFile := rule.file
  resourceName := resource.name
  resourceType := resource.type
  file := resource.source
  line := resource.line
  resourceConfig := resource.config
  comment := none

/-- The finding with a comment. -/
def withComment (v : Violation) (comment : String) : Violation :=
  { v with comment := some comment }

/-- The fields of a written finding. -/
def fields : Json.Fields Violation :=
  Violation.mk
    <$> .field "rule_name" Json.Decode.string
    <*> .field "rule_id" Json.Decode.string
    <*> .field "reference_id" Json.Decode.string
    <*> .field "description" Json.Decode.string
    <*> .field "category" Json.Decode.string
    <*> .field "severity" Severity.decode
    <*> .field "rule_file" Json.Decode.string
    <*> .field "resource_name" Json.Decode.string
    <*> .field "resource_type" Json.Decode.string
    <*> .field "file" Json.Decode.string
    <*> .field "line" Json.Decode.size
    <*> .field "resource_config" Json.Decode.value (some .null)
    <*> .field "comment" (Json.Decode.optional Json.Decode.string) (some none)

/-- Reads a finding. -/
def decode : Json.Decoder Violation := Json.Decode.record "Violation" fields

/-- The written form. A `null` configuration and an absent comment are left out. -/
def encode (v : Violation) : Json :=
  .object
    ([ ("rule_name", .string v.ruleName),
       ("rule_id", .string v.ruleId),
       ("reference_id", .string v.referenceId),
       ("description", .string v.description),
       ("category", .string v.category),
       ("severity", v.severity.encode),
       ("rule_file", .string v.ruleFile),
       ("resource_name", .string v.resourceName),
       ("resource_type", .string v.resourceType),
       ("file", .string v.file),
       ("line", Json.nat v.line.toNat) ]
      ++ (if v.resourceConfig.isNull then [] else [("resource_config", v.resourceConfig.json)])
      ++ (v.comment.map fun c => ("comment", Json.string c)).toList)

end Violation

/-- A rule that matched nothing. -/
@[ext]
structure PassedRule where
  ruleName : String
  ruleId : String
  referenceId : String
  description : String
  severity : Severity
  category : String
deriving DecidableEq, Repr

namespace PassedRule

/-- What a rule says of itself. -/
def of (rule : Rule) : PassedRule where
  ruleName := rule.name
  ruleId := rule.id
  referenceId := rule.referenceId
  description := rule.description
  severity := rule.severity
  category := rule.category

/-- The fields of a written pass. -/
def fields : Json.Fields PassedRule :=
  PassedRule.mk
    <$> .field "rule_name" Json.Decode.string
    <*> .field "rule_id" Json.Decode.string
    <*> .field "reference_id" Json.Decode.string
    <*> .field "description" Json.Decode.string
    <*> .field "severity" Severity.decode
    <*> .field "category" Json.Decode.string

/-- Reads a pass. -/
def decode : Json.Decoder PassedRule := Json.Decode.record "PassedRule" fields

/-- The written form. -/
def encode (p : PassedRule) : Json :=
  .object
    [ ("rule_name", .string p.ruleName),
      ("rule_id", .string p.ruleId),
      ("reference_id", .string p.referenceId),
      ("description", .string p.description),
      ("severity", p.severity.encode),
      ("category", .string p.category) ]

end PassedRule

end Rulebook
