/-
# Rules, configurations and findings are read back as they are written

Specification §6 (External Interfaces) and §10.4 (Tooling).

Three ways of writing what may be absent meet here. A finding leaves out a configuration that is
`null` and a comment that is not there, and its reader fills in the same. A configuration writes
`null` for a path or a severity that is not there. A rule writes everything. So an empty comment,
a `null` configuration and an absent option stay apart, each being written, left out or `null`
where the others are not.

An inventory shows the rules among other things. They are read back from its value by a reader of
the rules alone (`Inventory.listedRules`), for which the other fields are unknown ones.
-/

import Rulebook.Proofs.Engine.Listed
import Rulebook.Proofs.Resource.Written

namespace Rulebook

open Json (readsAs_string readsAs_size readsAs_u32 readsAs_value readsAs_list readsAs_map
  readsAs_nullable)
open Json.Fields (readsAs_field readsAs_field_of readsAs_field_optional)

/-- A text is not `null`. -/
theorem Json.string_ne_null (s : String) : Json.string s ≠ .null := Json.noConfusion

/-- What is null is the null value. -/
theorem Json.Value.eq_null_of_isNull {v : Json.Value} (h : v.isNull = true) : v = .null := by
  obtain ⟨j, hj⟩ := v
  cases j with
  | null => rfl
  | _ => cases h

/-! ### Rules -/

namespace Rule

/-- The arguments of a rule are read as they are written. -/
theorem readsAs_encodeArgs (args : SortedMap Json.Value) :
    Json.ReadsAs (Json.Decode.map Json.Decode.value) (encodeArgs args) args :=
  readsAs_map fun v _ => readsAs_value v

/-- A rule is read as it is written. -/
theorem readsAs_encode (r : Rule) : Json.ReadsAs decode r.encode r :=
  (readsAs_field (readsAs_string r.name) |>.map Rule.mk
    |>.seq (readsAs_field (readsAs_string r.file))
    |>.seq (readsAs_field (readsAs_encodeArgs r.templateArgs))
    |>.seq (readsAs_field r.severity.readsAs_encode)
    |>.seq (readsAs_field (readsAs_string r.description))
    |>.seq (readsAs_field (readsAs_string r.referenceId))
    |>.seq (readsAs_field (readsAs_string r.category))
    |>.seq (readsAs_field (readsAs_u32 r.version))
    |>.seq (readsAs_field (readsAs_string r.id))
    |>.seq (readsAs_field (readsAs_string r.resourceType))
    |>.seq (readsAs_field (readsAs_string r.policyType))).record (by decide) "RuleDescriptor"

end Rule

/-! ### Configurations -/

/-- A path has a written form exactly if it is UTF-8. -/
theorem Path.exists_encode_eq_some_iff {p : Path} :
    (∃ j, p.encode = some j) ↔ p.text.text?.isSome = true := by
  rw [encode, ← Option.isSome_iff_exists, Option.isSome_map]

/-- The written form of a path is the text that it spells. -/
theorem Path.exists_of_encode_eq_some {p : Path} {j : Json} (h : p.encode = some j) :
    ∃ text, j = .string text ∧ p = .ofString text := by
  obtain ⟨text, htext, rfl⟩ := Option.map_eq_some_iff.1 h
  exact ⟨text, rfl, Path.ext (RawText.text?_eq_some_iff.1 htext)⟩

namespace PolicyConfig

/-- A path that has a written form is read as it is written. -/
theorem readsAs_path {p : Path} {j : Json} (h : p.encode = some j) :
    Json.ReadsAs decodePath j p := by
  obtain ⟨text, rfl, rfl⟩ := Path.exists_of_encode_eq_some h
  rfl

/-- The paths of the configuration are UTF-8. -/
def HasTextPaths (c : PolicyConfig) : Prop :=
  c.basePath.text.text?.isSome = true ∧
    ∀ repo, c.repoPath = some repo → repo.text.text?.isSome = true

/-- A list of texts is read as it is written. -/
theorem readsAs_encodeStrings (items : List String) :
    Json.ReadsAs (Json.Decode.list Json.Decode.string) (encodeStrings items) items :=
  readsAs_list fun s _ => readsAs_string s

/-- The path of the policies is read as it is written, be it absent. -/
theorem exists_encodePath?_eq_some {p? : Option Path}
    (h : ∀ p, p? = some p → p.text.text?.isSome = true) :
    ∃ j, encodePath? p? = some j ∧ Json.ReadsAs (Json.Decode.optional decodePath) j p? := by
  rcases p? with _ | p
  · exact ⟨.null, rfl, rfl⟩
  · obtain ⟨j, hj⟩ := Path.exists_encode_eq_some_iff.2 (h p rfl)
    obtain ⟨text, rfl, rfl⟩ := Path.exists_of_encode_eq_some hj
    exact ⟨.string text, hj, rfl⟩

/-- A configuration whose paths are UTF-8 has a written form, and is read as it is written. -/
theorem exists_encode_eq_some {c : PolicyConfig} (h : c.HasTextPaths) :
    ∃ j, c.encode = some j ∧ Json.ReadsAs decode j c := by
  obtain ⟨base, hbase⟩ := Path.exists_encode_eq_some_iff.2 h.1
  obtain ⟨repo, hrepo, hreads⟩ := exists_encodePath?_eq_some h.2
  have hseverity := readsAs_nullable c.severity readsAs_string Json.string_ne_null
  refine ⟨_, by rw [encode, hbase, Option.bind_some, hrepo, Option.map_some], ?_⟩
  exact (readsAs_field (readsAs_path hbase) |>.map PolicyConfig.mk
    |>.seq (readsAs_field hreads)
    |>.seq (readsAs_field (readsAs_encodeStrings c.scanRules))
    |>.seq (readsAs_field (readsAs_encodeStrings c.skipRules))
    |>.seq (readsAs_field (readsAs_encodeStrings c.categories))
    |>.seq (readsAs_field (readsAs_encodeStrings c.policyTypes))
    |>.seq (readsAs_field hseverity)
    |>.seq (readsAs_field (readsAs_string c.queryBase))).record (by decide) "PolicyConfig"

end PolicyConfig

/-! ### Findings and passes -/

namespace Violation

/-- The parts of a written finding, in declared order. -/
def parts (v : Violation) : List (String × Option Json) :=
  [ ("rule_name", some (.string v.ruleName)),
    ("rule_id", some (.string v.ruleId)),
    ("reference_id", some (.string v.referenceId)),
    ("description", some (.string v.description)),
    ("category", some (.string v.category)),
    ("severity", some v.severity.encode),
    ("rule_file", some (.string v.ruleFile)),
    ("resource_name", some (.string v.resourceName)),
    ("resource_type", some (.string v.resourceType)),
    ("file", some (.string v.file)),
    ("line", some (Json.nat v.line.toNat)),
    ("resource_config", if v.resourceConfig.isNull then none else some v.resourceConfig.json),
    ("comment", v.comment.map Json.string) ]

/-- A finding is written as its parts, without those that are left out. -/
theorem encode_eq_writtenFields (v : Violation) :
    v.encode = .object (Json.writtenFields v.parts) := by
  unfold encode parts
  rcases v.comment with _ | comment <;> split <;> rfl

/-- The fields of a finding are read as they are written. -/
theorem readsAs_parts (v : Violation) : fields.ReadsAs v.parts v := by
  have hconfig : (Json.Fields.field "resource_config" Json.Decode.value (some .null)).ReadsAs
      [("resource_config", if v.resourceConfig.isNull then none else some v.resourceConfig.json)]
      v.resourceConfig := by
    by_cases hnull : v.resourceConfig.isNull = true
    · rw [if_pos hnull, Json.Value.eq_null_of_isNull hnull]
      exact readsAs_field_of (fun j hj => by cases hj) fun _ => rfl
    · rw [if_neg hnull]
      exact readsAs_field (readsAs_value v.resourceConfig)
  exact readsAs_field (readsAs_string v.ruleName) |>.map Violation.mk
    |>.seq (readsAs_field (readsAs_string v.ruleId))
    |>.seq (readsAs_field (readsAs_string v.referenceId))
    |>.seq (readsAs_field (readsAs_string v.description))
    |>.seq (readsAs_field (readsAs_string v.category))
    |>.seq (readsAs_field v.severity.readsAs_encode)
    |>.seq (readsAs_field (readsAs_string v.ruleFile))
    |>.seq (readsAs_field (readsAs_string v.resourceName))
    |>.seq (readsAs_field (readsAs_string v.resourceType))
    |>.seq (readsAs_field (readsAs_string v.file))
    |>.seq (readsAs_field (readsAs_size v.line))
    |>.seq hconfig
    |>.seq (readsAs_field_optional v.comment readsAs_string Json.string_ne_null)

/-- A finding is read as it is written. -/
theorem readsAs_encode (v : Violation) : Json.ReadsAs decode v.encode v := by
  rw [encode_eq_writtenFields]
  exact v.readsAs_parts.record (by decide) "Violation"

end Violation

/-- A pass is read as it is written. -/
theorem PassedRule.readsAs_encode (p : PassedRule) : Json.ReadsAs decode p.encode p :=
  (readsAs_field (readsAs_string p.ruleName) |>.map PassedRule.mk
    |>.seq (readsAs_field (readsAs_string p.ruleId))
    |>.seq (readsAs_field (readsAs_string p.referenceId))
    |>.seq (readsAs_field (readsAs_string p.description))
    |>.seq (readsAs_field p.severity.readsAs_encode)
    |>.seq (readsAs_field (readsAs_string p.category))).record (by decide) "PassedRule"

/-! ### Inventories -/

namespace Inventory

/-- Reads the rules from the value of a listing. -/
def listedRules : Json.Decoder (List Rule) :=
  Json.Decode.record "Inventory" (.field "rules" (Json.Decode.list Rule.decode))

/-- The rules of a listing are read as they are written, beside its counts and outcomes. -/
theorem Contents.readsAs_of_encode_eq_some {c : Contents} {j : Json} (h : c.encode = some j) :
    Json.ReadsAs listedRules j c.rules := by
  obtain ⟨written, hresults, rfl⟩ := Option.map_eq_some_iff.1 h
  let rules : List (String × Option Json) := [("rules", some (.array (c.rules.map Rule.encode)))]
  have hrules : (Json.Fields.field "rules" (Json.Decode.list Rule.decode)).ReadsAs rules c.rules :=
    readsAs_field (readsAs_list fun r _ => r.readsAs_encode)
  obtain ⟨shown, rfl⟩ : ∃ shown : Option Json,
      written = Json.writtenFields [("results", shown)] := by
    rcases hshown : c.results with _ | results
    · rw [hshown] at hresults
      exact ⟨none, (Option.some.inj hresults).symm⟩
    · rw [hshown] at hresults
      obtain ⟨js, -, rfl⟩ := Option.map_eq_some_iff.1 hresults
      exact ⟨some (.array js), rfl⟩
  let more : List (String × Option Json) := [("stats", some c.stats.encode), ("results", shown)]
  have hnames : ((rules ++ more).map Prod.fst).Nodup := by
    show ["rules", "stats", "results"].Nodup
    decide
  exact hrules.recordAmong hnames "Inventory"

end Inventory

/-- **What is written is read back.**  For every rule, configuration, finding and pass, reading the
value that it is written as gives it again: with its arguments and configurations of whatever
shape, and with whatever is absent. A configuration has such a value if its paths are UTF-8. A run
that asks for a listing as JSON prints, where there is a rule set, a value from which exactly the
active rules are read, in the order of their keys, unless the listing cannot be written. -/
theorem records_read_back :
    (∀ r : Rule, Json.decodeValue Rule.decode (.ofJson r.encode) = .ok r) ∧
    (∀ c : PolicyConfig, c.HasTextPaths →
      ∃ j, c.encode = some j ∧ Json.decodeValue PolicyConfig.decode (.ofJson j) = .ok c) ∧
    (∀ v : Violation, Json.decodeValue Violation.decode (.ofJson v.encode) = .ok v) ∧
    (∀ p : PassedRule, Json.decodeValue PassedRule.decode (.ofJson p.encode) = .ok p) ∧
    ∀ tree env arguments o set, Inventory.Command.read arguments = some (.list o) →
      o.has .json = true → Inventory.survey tree (o.policy (env.withFile tree)) = .ok set →
      (Inventory.run tree env arguments = .unwritable ∧ Inventory.Unwritable o set) ∨
      ∃ j : Json, Inventory.run tree env arguments = .printed (j.pretty 0 ++ "\n") ∧
        Json.decodeValue Inventory.listedRules (.ofJson j) =
          .ok (set.rules.values.map LoadedRule.rule) := by
  refine ⟨Rule.readsAs_encode, fun c => PolicyConfig.exists_encode_eq_some,
    Violation.readsAs_encode, PassedRule.readsAs_encode,
    fun tree env arguments o set hread hjson hsurvey => ?_⟩
  rw [Inventory.run_of_read_eq_list hread]
  rcases htext : (Inventory.Contents.ofSet set (o.has .verbose)).text (o.has .json) with _ | text
  · have hunwritable := Inventory.text_eq_none_iff.1 htext
    exact .inl ⟨Inventory.list_eq_unwritable_iff.2 ⟨set, hsurvey, hunwritable⟩, hunwritable⟩
  · have hprinted := Inventory.list_eq_printed_iff.2 ⟨set, hsurvey, htext⟩
    rw [hjson, Inventory.Contents.text, if_pos rfl] at htext
    obtain ⟨j, hj, rfl⟩ := Option.map_eq_some_iff.1 htext
    exact .inr ⟨j, hprinted, Inventory.Contents.readsAs_of_encode_eq_some hj⟩

namespace TwoRules

/-- The hypotheses of `records_read_back` are satisfiable: the rules that are listed as JSON are
read back as the two rules of the tree, with their names among their arguments, and so is the
configuration that lists them. -/
theorem records_read_back_twoRules :
    (config.HasTextPaths ∧
      ∃ j, config.encode = some j ∧
        Json.decodeValue PolicyConfig.decode (.ofJson j) = .ok config) ∧
      Inventory.Command.read arguments = some (.list options) ∧
      options.has .json = true ∧
      Inventory.survey tree (options.policy (Environment.withFile .empty tree)) = .ok set ∧
      ∃ j : Json, Inventory.run tree .empty arguments = .printed (j.pretty 0 ++ "\n") ∧
        Json.decodeValue Inventory.listedRules (.ofJson j) =
          .ok [(rule "l").withNameArg, (rule "q").withNameArg] := by
  obtain ⟨-, hconfigs, -, -, hlisting⟩ := records_read_back
  have hpaths : config.HasTextPaths :=
    ⟨congrArg Option.isSome (RawText.text?_ofString _), fun _ h => by cases h⟩
  have hread : Inventory.Command.read arguments = some (.list options) := by rfl
  have hconfig : options.policy (Environment.withFile .empty tree) = config := by rfl
  have hsurvey : Inventory.survey tree (options.policy (Environment.withFile .empty tree)) =
      .ok set := by
    rw [hconfig, Inventory.survey_eq_map, loadRules_eq]
    rfl
  rcases hlisting tree .empty arguments options set hread rfl hsurvey with
    ⟨-, -, hverbose, -⟩ | ⟨j, hprinted, hrules⟩
  · cases hverbose
  · rw [rules_set] at hrules
    exact ⟨⟨hpaths, hconfigs config hpaths⟩, hread, rfl, hsurvey, j, hprinted, hrules⟩

end TwoRules

end Rulebook
