/-
# The rules behind a report

Specification §2 (System Overview).

What an engine reports goes back to rules that its configuration admits. The selection
screens every rule before it is loaded; loading keeps a rule under its own reference id and
changes its arguments only; compiling changes nothing; and a scan keeps the rules that are
relevant to its resources. So an active rule is admitted and is found under its reference id
(`Engine.admits_of_get?_eq_some`), and as an entry of a report carries the reference id of
its rule, the rule is found again from the entry (`engine_reports_admitted_rules`).
-/

import Rulebook.Proofs.Engine.Setup
import Rulebook.Proofs.Evaluation.Origin
import Rulebook.Proofs.Rule.Compiled
import Rulebook.Proofs.RuleSet.Shelf

namespace Rulebook

section

variable {Module Query : Type} {backend : Backend Module Query} {tree : FileTree}
  {config : PolicyConfig} {engine : Engine Module Query}

/-- A rule that is loaded from an admitted one is admitted: its arguments are not asked for. -/
theorem PolicyConfig.Admits.of_renders {directory : Path} {r : Rule} {loaded : LoadedRule}
    (h : config.Admits r) (hloaded : loaded.Renders tree directory r) :
    config.Admits loaded.rule := by
  rw [hloaded.rule_eq]
  exact ⟨h.not_skipped, h.scanned, h.severity, h.category, h.policyType, h.undotted⟩

namespace Engine

/-- An engine has the rules of the metadata files below its policy path, compiled. -/
theorem exists_files_of_init_eq_ok (h : (Engine.init backend tree config).outcome = .ok engine) :
    ∃ s files, Selection.ofConfig config = .ok s ∧
      tree.metadataFiles engine.policyPath = .ok files ∧
      (engine.rules.map fun _ c => c.loaded) = (Loading.run tree s files).finish.rules := by
  obtain ⟨set, hset, hrules, -⟩ := exists_loadRules_of_init_eq_ok h
  obtain ⟨-, -, s, hselection, hload⟩ := PolicyConfig.loadRules_eq_ok_iff.1 hset
  obtain ⟨files, hfiles, rfl⟩ := RuleSet.load_eq_ok_iff.1 hload
  rw [← Loading.run_eq_uncached] at hrules
  exact ⟨s, files, hselection, hfiles, map_loaded_of_compileRules_eq_ok hrules⟩

/-- **An active rule is admitted**, and is found under its reference id. -/
theorem admits_of_get?_eq_some (h : (Engine.init backend tree config).outcome = .ok engine)
    {id : String} {c : CompiledRule Query} (hget : engine.rules.get? id = some c) :
    config.Admits c.rule ∧ c.rule.referenceId = id := by
  obtain ⟨s, files, hselection, -, hrules⟩ := exists_files_of_init_eq_ok h
  have hloaded : (Loading.run tree s files).set.rules.get? id = some c.loaded := by
    show (Loading.run tree s files).finish.rules.get? id = some c.loaded
    rw [← hrules, SortedMap.get?_map, hget]
    rfl
  obtain ⟨_, f, _, -, ⟨rule, -, hscreen, hid, hrenders⟩, -⟩ :=
    Loading.get?_rules_run_eq_some_iff.1 hloaded
  have hadmits : config.Admits rule := (PolicyConfig.screen_eq_none_iff hselection).1 hscreen
  exact ⟨hadmits.of_renders hrenders, hrenders.referenceId_eq.trans hid⟩

end Engine

end

/-! ### Two rules, from their files to a report -/

namespace Shelf

/-- The body of rules that say the same whatever their names are. -/
def plain : List UInt8 := Text.encodeUtf8 "deny"

variable {files : List (RawText × List UInt8)}

/-- A configuration for a shelf loads its files. -/
theorem loadRules_tree {body : List UInt8} (h : Orderly files) {c : PolicyConfig} {s : Selection}
    (hbase : c.basePath = ⟨"/p"⟩) (hrepo : c.repoPath = none)
    (hcategories : c.unknownCategories = [])
    (hselection : Selection.ofConfig c = .ok s) :
    c.loadRules (tree files body) =
      .ok (⟨"/p"⟩, (Loading.uncached (tree files body) s (files.map scanned)).finish) := by
  have hpaths : c.resolvePaths (tree files body).currentDirectory = .ok (⟨"/p"⟩, ⟨"/p"⟩) := by
    rw [PolicyConfig.resolvePaths, hbase, hrepo]
    rfl
  exact PolicyConfig.loadRules_eq_ok_iff.2 ⟨⟨_, hpaths⟩, hcategories, s, hselection,
    RuleSet.load_eq_ok_iff.2 ⟨_, metadataFiles_tree h, rfl⟩⟩

/-- A metadata file beside the plain body registers its rule with this body. -/
theorem registers_plain (file : RawText) {s : Selection} {name referenceId category : String}
    (hparsed : Rule.ofBytes (metadata name referenceId category) =
      .ok (rule name referenceId category))
    (hscreen : s.screen (rule name referenceId category) = none) :
    (tree files plain).Registers s (scanned (file, metadata name referenceId category)) referenceId
      ⟨(rule name referenceId category).withNameArg, "deny", ⟨"/p/x"⟩⟩ := by
  have hrender : renderBody plain (rule name referenceId category).withNameArg.templateArgs =
      .ok "deny" := by
    cbv
  exact registers hparsed hscreen hrender (by decide)

end Shelf

namespace TwoRules

/-- A rule known by a word. -/
def rule (word : String) : Rule := Shelf.rule word word ""

/-- The contents of the metadata file of a rule. -/
def metadata (word : String) : List UInt8 := Shelf.metadata word word ""

/-- The metadata files of the rules. -/
def files : List (RawText × List UInt8) := [("l.json", metadata "l"), ("q.json", metadata "q")]

/-- A tree with the rules. -/
def tree : FileTree := Shelf.tree files Shelf.plain

/-- A configuration that scans for both rules. -/
def config : PolicyConfig where
  basePath := ⟨"/p"⟩
  scanRules := ["q", "l"]

/-- The selection of the configuration. -/
def selection : Selection := { scanRules := ["q", "l"] }

/-- A backend that names a resource for one of the rules. -/
def backend : Backend Unit String where
  compile _ _ := .ok ()
  prepare _ path := .ok path
  evaluate path _ := if path = "data.iacguard.l" then .ok [.string "bucket.a"] else .ok []

/-- A graph of one resource. -/
def graph : ResourceGraph := ResourceGraph.empty.add "bucket" [.ofTypeName "bucket" "a"]

/-- A rule as it is loaded. -/
def loaded (word : String) : LoadedRule := ⟨(rule word).withNameArg, "deny", ⟨"/p/x"⟩⟩

/-- A rule as it is compiled. -/
def compiled (word : String) : CompiledRule String := ⟨loaded word, "data.iacguard." ++ word⟩

/-- The rules as they are loaded from their files. -/
def set : RuleSet := (Loading.uncached tree selection (files.map Shelf.scanned)).finish

/-- The engine of the configuration. -/
def engine : Engine Unit String where
  backend := backend
  rules := .ofList [("l", compiled "l"), ("q", compiled "q")]
  stats := .ofLoad set.stats
  loadResults := set.results
  policyPath := ⟨"/p"⟩
  config := config

/-- The metadata of both files are read as their rules. -/
theorem ofBytes_metadata :
    Rule.ofBytes (metadata "l") = .ok (rule "l") ∧
      Rule.ofBytes (metadata "q") = .ok (rule "q") :=
  ⟨Shelf.ofBytes_metadata (by cbv), Shelf.ofBytes_metadata (by cbv)⟩

/-- The configuration gives the rules of both files. -/
theorem loadRules_eq : config.loadRules tree = .ok (⟨"/p"⟩, set) := by
  have horderly : Shelf.Orderly files := by decide +kernel
  exact Shelf.loadRules_tree horderly rfl rfl rfl rfl

/-- Both rules are active. -/
theorem rules_set : set.rules = .ofList [("l", loaded "l"), ("q", loaded "q")] := by
  have hloud : tree.registration? selection (Shelf.scanned ("l.json", metadata "l")) =
      some ("l", loaded "l") :=
    FileTree.registers_iff.1 (Shelf.registers_plain _ ofBytes_metadata.1 (by decide))
  have hquiet : tree.registration? selection (Shelf.scanned ("q.json", metadata "q")) =
      some ("q", loaded "q") :=
    FileTree.registers_iff.1 (Shelf.registers_plain _ ofBytes_metadata.2 (by decide))
  show SortedMap.ofList ((files.map Shelf.scanned).filterMap (tree.registration? selection)) = _
  rw [files, List.map_cons, List.map_singleton, List.filterMap_cons_some hloud,
    List.filterMap_cons_some hquiet]
  rfl

/-- The two rules make an engine. -/
theorem outcome_init : (Engine.init backend tree config).outcome = .ok engine := by
  have hrules : (compileRules backend config.queryBase set.rules).outcome = .ok engine.rules := by
    rw [rules_set]
    rfl
  exact Engine.outcome_init_eq_ok loadRules_eq hrules

end TwoRules

end Rulebook
