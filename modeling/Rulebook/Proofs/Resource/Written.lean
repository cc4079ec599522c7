/-
# A graph is read back from the value that rules are evaluated on

Specification §6 (External Interfaces).

The value of a graph leaves out what a resource does not have: directives, if there are none, and
the bounds of its severity, if they are not set. Everything else is written, also an empty comment
or a `null` configuration. Reading fills in exactly what was left out, since the defaults of the
reader are what the writer leaves out: no directives and no bounds. A `null` configuration is
there, and is not taken for a missing one.

The severities and the word that mutes are read in any case and between white space, so also as
they are written.
-/

import Rulebook.Resource.Graph
import Rulebook.Proofs.Json.Reads

namespace Rulebook

open Json (readsAs_string readsAs_stringVia readsAs_size readsAs_value readsAs_list)
open Json.Fields (readsAs_field readsAs_field_of readsAs_field_optional)

namespace Severity

/-- The name of a severity is read as this severity. -/
theorem parse?_name (s : Severity) : parse? s.name = some s := by
  cases s <;> decide

/-- A severity is read as it is written. -/
theorem readsAs_encode (s : Severity) : Json.ReadsAs decode s.encode s := by
  refine readsAs_stringVia ?_
  rw [parse?_name]

end Severity

namespace SeverityCap

/-- The name of a cap is read as this cap. -/
theorem parse?_name (c : SeverityCap) : parse? c.name = some c := by
  rcases c with _ | s
  · decide
  · cases s <;> decide

/-- A cap is read as it is written. -/
theorem readsAs_encode (c : SeverityCap) : Json.ReadsAs decode c.encode c := by
  refine readsAs_stringVia ?_
  rw [parse?_name]

end SeverityCap

/-- A directive is read as it is written. -/
theorem SkipRule.readsAs_encode (s : SkipRule) : Json.ReadsAs decode s.encode s :=
  (readsAs_field (readsAs_string s.rule) |>.map SkipRule.mk
    |>.seq (readsAs_field (readsAs_string s.comment))).record (by decide) "SkipRule"

namespace Resource

/-- The parts of a written resource, in declared order. -/
def parts (r : Resource) : List (String × Option Json) :=
  [ ("id", some (.string r.id)),
    ("name", some (.string r.name)),
    ("type", some (.string r.type)),
    ("source", some (.string r.source)),
    ("line", some (Json.nat r.line.toNat)),
    ("config", some r.config.json),
    ("skip_rules",
      if r.skipRules = [] then none else some (.array (r.skipRules.map SkipRule.encode))),
    ("min_severity", r.minSeverity.map Severity.encode),
    ("max_severity", r.maxSeverity.map SeverityCap.encode) ]

/-- A resource is written as its parts, without those that are left out. -/
theorem encode_eq_writtenFields (r : Resource) :
    r.encode = .object (Json.writtenFields r.parts) := by
  unfold encode parts
  rcases r.minSeverity with _ | minimum <;> rcases r.maxSeverity with _ | maximum <;> split <;> rfl

/-- The fields of a resource are read as they are written. -/
theorem readsAs_parts (r : Resource) : fields.ReadsAs r.parts r := by
  have hskip : (Json.Fields.field "skip_rules" (Json.Decode.list SkipRule.decode) (some [])).ReadsAs
      [("skip_rules",
        if r.skipRules = [] then none else some (.array (r.skipRules.map SkipRule.encode)))]
      r.skipRules := by
    by_cases hnil : r.skipRules = []
    · rw [if_pos hnil, hnil]
      exact readsAs_field_of (fun j hj => by cases hj) fun _ => rfl
    · rw [if_neg hnil]
      exact readsAs_field (readsAs_list fun s _ => s.readsAs_encode)
  have hseverity (s : Severity) : s.encode ≠ .null := Json.noConfusion
  have hcap (c : SeverityCap) : c.encode ≠ .null := Json.noConfusion
  exact readsAs_field (readsAs_string r.id) |>.map Resource.mk
    |>.seq (readsAs_field (readsAs_string r.name))
    |>.seq (readsAs_field (readsAs_string r.type))
    |>.seq (readsAs_field (readsAs_string r.source))
    |>.seq (readsAs_field (readsAs_size r.line))
    |>.seq (readsAs_field (readsAs_value r.config))
    |>.seq hskip
    |>.seq (readsAs_field_optional r.minSeverity Severity.readsAs_encode hseverity)
    |>.seq (readsAs_field_optional r.maxSeverity SeverityCap.readsAs_encode hcap)

/-- A resource is read as it is written. -/
theorem readsAs_encode (r : Resource) : Json.ReadsAs decode r.encode r := by
  rw [encode_eq_writtenFields]
  exact r.readsAs_parts.record (by decide) "ResourceConfig"

end Resource

/-- **A graph is read back from the value that rules are evaluated on.**  Whatever its types, its
resources, their configurations, directives and bounds are, nothing of them is lost. -/
theorem ResourceGraph.decode_inputDocument (g : ResourceGraph) :
    Json.decodeValue decode g.inputDocument = .ok g := by
  have hlist (found : List Resource) :
      Json.ReadsAs (Json.Decode.list Resource.decode) (.array (found.map Resource.encode)) found :=
    readsAs_list fun r _ => r.readsAs_encode
  have hmap : Json.ReadsAs (Json.Decode.map (Json.Decode.list Resource.decode)) g.encode g.byType :=
    Json.readsAs_map fun found _ => hlist found
  show (Json.Decode.map (Json.Decode.list Resource.decode)
    (.ofJson (Json.normalize g.encode))).map ResourceGraph.mk = .ok g
  rw [Json.readsAs_iff.1 hmap]
  rfl

end Rulebook
