/-
# The listing of an inventory

Specification §10.4 (Tooling).

A listing shows the active rules in the order of their reference ids and what the load
has counted; a verbose one also shows the metadata files whose rules are not active. It
is written as a table or as JSON. JSON is Unicode, so a verbose listing of a path that is
not UTF-8 cannot be written as JSON.
-/

import Rulebook.RuleSet
import Rulebook.Json.Printer
import Rulebook.Text.Padded

namespace Rulebook
namespace Inventory

/-- A text in a column that is filled up to a width. -/
def column (width : Nat) (text : String) : String := Text.Column.pad { width } text

/-- The line of a rule in a table. -/
def ruleLine (r : Rule) : String :=
  " ".intercalate
    [ column 28 r.referenceId, column 20 r.id, column 7 r.severity.name, column 28 r.category,
      r.name ] ++ "\n"

/-- The line of a metadata file in a table, unless its rule was registered. -/
def resultLine (r : LoadResult) : String :=
  match r.status with
  | .registered _ => ""
  | .rejected reason => "rejected  " ++ r.path.text.display ++ "  (" ++ reason.message ++ ")\n"
  | .failed cause => "failed    " ++ r.path.text.display ++ "  (" ++ cause.message ++ ")\n"

/-- The last line of a table. -/
def totalLine (s : LoadStats) : String :=
  toString s.ruleCount ++ " rules from " ++ toString s.metadataFiles ++ " metadata files (" ++
    toString s.descriptors ++ " admitted, " ++ toString s.bodyFiles ++ " body files)\n"

/-- What a listing shows of a rule set. -/
structure Contents where
  /-- The active rules, in the order of their reference ids. -/
  rules : List Rule
  stats : LoadStats
  /-- The outcome of every metadata file; only in a verbose listing. -/
  results : Option (List LoadResult)

namespace Contents

/-- The contents of the listing of a rule set. -/
def ofSet (set : RuleSet) (verbose : Bool) : Contents where
  rules := set.rules.values.map LoadedRule.rule
  stats := set.stats
  results := if verbose then some set.results else none

/-- The contents as a table. -/
def table (c : Contents) : String :=
  let results := (c.results.map fun results => results.map resultLine).getD []
  String.join (c.rules.map ruleLine ++ results) ++ "\n" ++ totalLine c.stats

/-- The fields of the outcomes in JSON: one if they are shown, and none otherwise. -/
def encodeResults : Option (List LoadResult) → Option (List (String × Json))
  | none => some []
  | some results =>
    (results.mapM LoadResult.encode).map fun results => [("results", .array results)]

/-- The contents as JSON, unless a path in it is not UTF-8. -/
def encode (c : Contents) : Option Json :=
  (encodeResults c.results).map fun results =>
    .object (("rules", .array (c.rules.map Rule.encode)) :: ("stats", c.stats.encode) :: results)

/-- The text of a listing, unless it cannot be written. -/
def text (c : Contents) (json : Bool) : Option String :=
  if json then c.encode.map fun contents => contents.pretty 0 ++ "\n" else some c.table

end Contents

end Inventory
end Rulebook
