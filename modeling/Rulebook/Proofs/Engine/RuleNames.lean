/-
# The names of active rules

Specification §3 (Data Model) and §4.3 (Rule Compiler).

Active rules are kept under their reference ids, but a backend knows them by their names: the
name is that of the module, and behind the common base it is the path of the query. A name
holds no dot, so it can be read off the path again (`queryName_queryPath`). Nothing asks
names to be different: two metadata files with one name and two reference ids are both
registered, and then a query path leads to no rule in particular. That the names of active
rules are different is therefore a property of the metadata files, and
`active_names_distinct_tfae` says of which: of those that are the last ones to be registered
under their reference ids.
-/

import Rulebook.Proofs.Engine.Provenance

namespace Rulebook

namespace BackendCall

variable {Module : Type}

/-- The name of the module that a call compiles. -/
def moduleName? : BackendCall Module → Option String
  | compile name _ => some name
  | prepare _ _ => none

/-- The path of the query that a call prepares. -/
def queryPath? : BackendCall Module → Option String
  | compile _ _ => none
  | prepare _ path => some path

end BackendCall

/-! ### Query paths -/

/-- The text behind the last dot of a query path. -/
def queryName (path : String) : String :=
  String.ofList (path.toList.reverse.takeWhile (· ≠ '.')).reverse

/-- **A name without a dot is read off its query path.** -/
theorem queryName_queryPath {base name : String} (h : '.' ∉ name.toList) :
    queryName (queryPath base name) = name := by
  have hname : ∀ c ∈ name.toList.reverse, decide (c ≠ '.') = true := by
    intro c hc
    rw [List.mem_reverse] at hc
    exact decide_eq_true fun hdot => h (hdot ▸ hc)
  have hpath : (queryPath base name).toList.reverse =
      name.toList.reverse ++ '.' :: base.toList.reverse := by
    simp [queryPath, String.toList_append]
  rw [queryName, hpath, List.takeWhile_append_of_pos hname,
    List.takeWhile_cons_of_neg (by simp), List.append_nil, List.reverse_reverse,
    String.ofList_toList]

/-- Rules with different names have different query paths. -/
theorem queryPath_injective (base : String) : Function.Injective (queryPath base) := by
  intro a b h
  have hlists := congrArg String.toList h
  simp only [queryPath, String.toList_append, List.append_assoc] at hlists
  exact String.toList_inj.1 (List.append_cancel_left (List.append_cancel_left hlists))

section

variable {Module Query : Type} {backend : Backend Module Query} {base : String}

/-- A prepared rule is compiled under its name, and asked for under the path of its name. -/
theorem filterMap_flatMap_calls (ps : List (PreparedRule backend base)) :
    (ps.flatMap PreparedRule.calls).filterMap BackendCall.moduleName? =
        ps.map (·.loaded.rule.name) ∧
      (ps.flatMap PreparedRule.calls).filterMap BackendCall.queryPath? =
        ps.map fun p => queryPath base p.loaded.rule.name := by
  induction ps with
  | nil => exact ⟨rfl, rfl⟩
  | cons p ps ih =>
    constructor
    · rw [List.flatMap_cons, List.filterMap_append, ih.1]
      rfl
    · rw [List.flatMap_cons, List.filterMap_append, ih.2]
      rfl

/-- **What a backend is asked for**: a module under the name of each rule, and a query under
the path of each name. -/
theorem filterMap_calls_compileRules {rules : SortedMap LoadedRule}
    {compiled : SortedMap (CompiledRule Query)}
    (h : (compileRules backend base rules).outcome = .ok compiled) :
    (compileRules backend base rules).calls.filterMap BackendCall.moduleName? =
        compiled.values.map (·.rule.name) ∧
      (compileRules backend base rules).calls.filterMap BackendCall.queryPath? =
        compiled.values.map fun c => queryPath base c.rule.name := by
  rcases compileRules_cases backend base rules with
    ⟨ps, found, -, hfound, hcompile⟩ | ⟨_, _, _, _, _, _, -, -, hcompile⟩
  · rw [hcompile] at h ⊢
    obtain rfl := Except.ok.inj h
    obtain ⟨hmodules, hqueries⟩ := filterMap_flatMap_calls ps
    rw [SortedMap.values, hfound]
    simp only [List.map_map]
    exact ⟨hmodules, hqueries⟩
  · rw [hcompile] at h
    cases h

end

/-! ### Different names -/

/-- A metadata file is the last one to be registered under the reference id of its rule. -/
structure FileTree.RegisteredLast (tree : FileTree) (s : Selection) (files : List ScannedFile)
    (f : ScannedFile) (rule : Rule) : Prop where
  parsed_eq : f.parsed = .ok rule
  last : ∃ before after, files = before ++ f :: after ∧
    tree.outcome s f.directory f.parsed = .registered rule.referenceId ∧
    ∀ g ∈ after, tree.outcome s g.directory g.parsed ≠ .registered rule.referenceId

namespace Engine

variable {Module Query : Type} {backend : Backend Module Query} {tree : FileTree}
  {config : PolicyConfig} {engine : Engine Module Query} {s : Selection}
  {files : List ScannedFile}

/-- Different active rules have different names. -/
def NamesDistinct (engine : Engine Module Query) : Prop :=
  ∀ id c id' c', engine.rules.get? id = some c → engine.rules.get? id' = some c' → id ≠ id' →
    c.rule.name ≠ c'.rule.name

/-- The keys of active rules can be told from the paths of their queries. -/
def KeysRecoverable (engine : Engine Module Query) (base : String) : Prop :=
  ∃ idOf : String → Option String, ∀ id c, engine.rules.get? id = some c →
    idOf (queryPath base c.rule.name) = some id

/-- The names under which rules are active are those of the metadata files that are the last
ones under their reference ids. -/
theorem exists_name_iff
    (hrules : (engine.rules.map fun _ c => c.loaded) = (Loading.run tree s files).finish.rules)
    {id name : String} :
    (∃ c, engine.rules.get? id = some c ∧ c.rule.name = name) ↔
      ∃ f rule, tree.RegisteredLast s files f rule ∧ rule.referenceId = id ∧ rule.name = name := by
  have hget : ∀ loaded, (Loading.run tree s files).set.rules.get? id = some loaded ↔
      ∃ c, engine.rules.get? id = some c ∧ c.loaded = loaded := by
    intro loaded
    rw [show (Loading.run tree s files).set.rules = engine.rules.map fun _ c => c.loaded from
      hrules.symm, SortedMap.get?_map, Option.map_eq_some_iff]
  constructor
  · rintro ⟨c, hc, rfl⟩
    obtain ⟨before, f, after, hfiles, hregisters, hlast⟩ :=
      Loading.get?_rules_run_eq_some_iff.1 ((hget c.loaded).2 ⟨c, hc, rfl⟩)
    have houtcome : tree.outcome s f.directory f.parsed = .registered id :=
      FileTree.outcome_eq_registered_iff_registers.2 ⟨c.loaded, hregisters⟩
    obtain ⟨rule, hparsed, -, rfl, hrenders⟩ := hregisters
    refine ⟨f, rule, ⟨hparsed, before, after, hfiles, houtcome, hlast⟩, rfl, ?_⟩
    rw [CompiledRule.rule, hrenders.rule_eq]
  · rintro ⟨f, rule, ⟨hparsed, before, after, hfiles, houtcome, hlast⟩, rfl, rfl⟩
    obtain ⟨loaded, hregisters⟩ := FileTree.outcome_eq_registered_iff_registers.1 houtcome
    obtain ⟨c, hc, hloaded⟩ := (hget loaded).1
      (Loading.get?_rules_run_eq_some_iff.2 ⟨before, f, after, hfiles, hregisters, hlast⟩)
    obtain ⟨rule', hparsed', -, -, hrenders⟩ := hregisters
    obtain rfl := Except.ok.inj (hparsed.symm.trans hparsed')
    refine ⟨c, hc, ?_⟩
    rw [CompiledRule.rule, hloaded, hrenders.rule_eq]

/-- Modules are compiled under different names exactly if active rules have different names. -/
theorem nodup_names_iff :
    (engine.rules.values.map (·.rule.name)).Nodup ↔ engine.NamesDistinct := by
  rw [SortedMap.values, List.map_map]
  constructor
  · intro h id c id' c' hc hc' hne hname
    have hsame := List.inj_on_of_nodup_map h (SortedMap.mem_entries_iff.2 hc)
      (SortedMap.mem_entries_iff.2 hc') hname
    exact hne (congrArg Prod.fst hsame)
  · intro h
    refine List.pairwise_map.2 (engine.rules.ascending.imp_of_mem fun {e e'} he he' hlt => ?_)
    exact h e.1 e.2 e'.1 e'.2 (SortedMap.mem_entries_iff.1 he) (SortedMap.mem_entries_iff.1 he')
      (ne_of_lt hlt)

/-- **Names are different if the metadata files that count give different names.** -/
theorem namesDistinct_iff_registeredLast
    (hrules : (engine.rules.map fun _ c => c.loaded) = (Loading.run tree s files).finish.rules) :
    engine.NamesDistinct ↔
      ∀ f rule f' rule', tree.RegisteredLast s files f rule →
        tree.RegisteredLast s files f' rule' → rule.referenceId ≠ rule'.referenceId →
        rule.name ≠ rule'.name := by
  constructor
  · intro hdistinct f rule f' rule' hf hf' hne
    obtain ⟨c, hc, hname⟩ := (exists_name_iff hrules).2 ⟨f, rule, hf, rfl, rfl⟩
    obtain ⟨c', hc', hname'⟩ := (exists_name_iff hrules).2 ⟨f', rule', hf', rfl, rfl⟩
    rw [← hname, ← hname']
    exact hdistinct _ _ _ _ hc hc' hne
  · intro hdistinct id c id' c' hc hc' hne
    obtain ⟨f, rule, hf, rfl, hname⟩ := (exists_name_iff hrules).1 ⟨c, hc, rfl⟩
    obtain ⟨f', rule', hf', rfl, hname'⟩ := (exists_name_iff hrules).1 ⟨c', hc', rfl⟩
    rw [← hname, ← hname']
    exact hdistinct _ _ _ _ hf hf' hne

/-- **From the path of a query to the key of its rule**: a path ends in the name of one rule,
if names have no dots and are different. -/
theorem NamesDistinct.keysRecoverable {base : String} (hdistinct : engine.NamesDistinct)
    (hdot : ∀ id c, engine.rules.get? id = some c → '.' ∉ c.rule.name.toList) :
    engine.KeysRecoverable base := by
  refine ⟨fun path => (engine.rules.entries.find? fun e => e.2.rule.name == queryName path).map
    Prod.fst, fun id c hc => ?_⟩
  simp only [queryName_queryPath (hdot id c hc)]
  rcases hfind : engine.rules.entries.find? fun e => e.2.rule.name == c.rule.name with _ | e
  · have hnot := List.find?_eq_none.1 hfind (id, c) (SortedMap.mem_entries_iff.2 hc)
    exact absurd (beq_self_eq_true c.rule.name) hnot
  · have hfound := List.find?_some hfind
    have hname : e.2.rule.name = c.rule.name := beq_iff_eq.1 hfound
    have he := SortedMap.mem_entries_iff.1 (List.mem_of_find?_eq_some hfind)
    rw [hfind, Option.map_some, Option.some.injEq]
    by_contra hne
    exact hdistinct _ _ _ _ he hc hne hname

/-- Rules with one name have one query path, which leads to at most one of their keys. -/
theorem KeysRecoverable.namesDistinct {base : String} (h : engine.KeysRecoverable base) :
    engine.NamesDistinct := by
  obtain ⟨idOf, hidOf⟩ := h
  intro id c id' c' hc hc' hne hname
  have hpath := hidOf id c hc
  rw [hname, hidOf id' c' hc'] at hpath
  exact hne (Option.some.inj hpath).symm

/-- **When the names of active rules are different.** An engine compiles a module under the
name of each of its rules and prepares a query under the path of each name, and from the path
the name is read off. The names of rules under different keys are different exactly if the
metadata files that are the last ones under different reference ids give rules of different
names; that is to say, if no two modules share a name, if no two queries share a path, or if
the key of an active rule can be told from the path of its query. -/
theorem active_names_distinct_tfae (h : (Engine.init backend tree config).outcome = .ok engine) :
    (Engine.init backend tree config).calls.filterMap BackendCall.moduleName? =
      engine.rules.values.map (·.rule.name) ∧
    (Engine.init backend tree config).calls.filterMap BackendCall.queryPath? =
      (engine.rules.values.map fun c => queryPath config.queryBase c.rule.name) ∧
    (∀ id c, engine.rules.get? id = some c → '.' ∉ c.rule.name.toList ∧
      queryName (queryPath config.queryBase c.rule.name) = c.rule.name) ∧
    ∃ s files, Selection.ofConfig config = .ok s ∧
      tree.metadataFiles engine.policyPath = .ok files ∧
      [ engine.NamesDistinct,
        ∀ f rule f' rule', tree.RegisteredLast s files f rule →
          tree.RegisteredLast s files f' rule' → rule.referenceId ≠ rule'.referenceId →
          rule.name ≠ rule'.name,
        ((Engine.init backend tree config).calls.filterMap BackendCall.moduleName?).Nodup,
        ((Engine.init backend tree config).calls.filterMap BackendCall.queryPath?).Nodup,
        engine.KeysRecoverable config.queryBase ].TFAE := by
  obtain ⟨set, -, hcompile, hcalls, -⟩ := exists_loadRules_of_init_eq_ok h
  obtain ⟨hmodules, hqueries⟩ := filterMap_calls_compileRules hcompile
  obtain ⟨s, files, hselection, hfiles, hrules⟩ := exists_files_of_init_eq_ok h
  have hdot : ∀ id c, engine.rules.get? id = some c → '.' ∉ c.rule.name.toList :=
    fun id c hc => (admits_of_get?_eq_some h hc).1.undotted
  refine ⟨hcalls ▸ hmodules, hcalls ▸ hqueries,
    fun id c hc => ⟨hdot id c hc, queryName_queryPath (hdot id c hc)⟩,
    s, files, hselection, hfiles, ?_⟩
  rw [hcalls, hmodules, hqueries]
  tfae_have 1 ↔ 2 := namesDistinct_iff_registeredLast hrules
  tfae_have 3 ↔ 1 := nodup_names_iff
  tfae_have 4 ↔ 3 := by
    have hpaths : (engine.rules.values.map fun c => queryPath config.queryBase c.rule.name) =
        (engine.rules.values.map (·.rule.name)).map (queryPath config.queryBase) := by
      rw [List.map_map]
      rfl
    rw [hpaths, List.nodup_map_iff (queryPath_injective config.queryBase)]
  tfae_have 1 → 5 := fun hdistinct => hdistinct.keysRecoverable hdot
  tfae_have 5 → 1 := fun hrecoverable => hrecoverable.namesDistinct
  tfae_finish

end Engine

/-! ### Two rules of one name -/

namespace SameName

/-- A rule that shares its name with every other one, under a reference id of its own. -/
def rule (id : String) : Rule := Shelf.rule "n" id ""

/-- The contents of the metadata file of a rule. -/
def metadata (id : String) : List UInt8 := Shelf.metadata "n" id ""

/-- The metadata files of the rules. -/
def files : List (RawText × List UInt8) := [("l.json", metadata "l"), ("q.json", metadata "q")]

/-- A tree with the rules. -/
def tree : FileTree := Shelf.tree files Shelf.plain

/-- The configuration that loads them. -/
def config : PolicyConfig := { basePath := ⟨"/p"⟩ }

/-- A rule as it is loaded. -/
def loaded (id : String) : LoadedRule := ⟨(rule id).withNameArg, "deny", ⟨"/p/x"⟩⟩

/-- A rule as it is compiled. -/
def compiled (id : String) : CompiledRule String := ⟨loaded id, "data.iacguard.n"⟩

/-- The rules as they are loaded from their files. -/
def set : RuleSet := (Loading.uncached tree .permissive (files.map Shelf.scanned)).finish

/-- The engine of the configuration. -/
def engine : Engine Unit String where
  backend := TwoRules.backend
  rules := .ofList [("l", compiled "l"), ("q", compiled "q")]
  stats := .ofLoad set.stats
  loadResults := set.results
  policyPath := ⟨"/p"⟩
  config := config

/-- Two rules of one name make an engine. -/
theorem outcome_init : (Engine.init TwoRules.backend tree config).outcome = .ok engine := by
  have horderly : Shelf.Orderly files := by decide +kernel
  have hl : tree.registration? .permissive (Shelf.scanned ("l.json", metadata "l")) =
      some ("l", loaded "l") :=
    FileTree.registers_iff.1
      (Shelf.registers_plain _ (Shelf.ofBytes_metadata (by cbv)) (by decide))
  have hq : tree.registration? .permissive (Shelf.scanned ("q.json", metadata "q")) =
      some ("q", loaded "q") :=
    FileTree.registers_iff.1
      (Shelf.registers_plain _ (Shelf.ofBytes_metadata (by cbv)) (by decide))
  have hset : set.rules = .ofList [("l", loaded "l"), ("q", loaded "q")] := by
    show SortedMap.ofList ((files.map Shelf.scanned).filterMap (tree.registration? .permissive)) = _
    rw [files, List.map_cons, List.map_singleton, List.filterMap_cons_some hl,
      List.filterMap_cons_some hq]
    rfl
  have hrules : (compileRules TwoRules.backend config.queryBase set.rules).outcome =
      .ok engine.rules := by
    rw [hset]
    rfl
  exact Engine.outcome_init_eq_ok (Shelf.loadRules_tree horderly rfl rfl rfl rfl) hrules

/-- Not all active rules have different names: two metadata files with one name and different
reference ids give an engine two rules of this name. -/
theorem not_active_names_distinct :
    ¬ ∀ (backend : Backend Unit String) (tree : FileTree) (config : PolicyConfig)
      (engine : Engine Unit String), (Engine.init backend tree config).outcome = .ok engine →
        engine.NamesDistinct := by
  intro h
  have hl : engine.rules.get? "l" = some (compiled "l") := by rfl
  have hq : engine.rules.get? "q" = some (compiled "q") := by rfl
  exact h TwoRules.backend tree config engine outcome_init "l" _ "q" _ hl hq (by decide) rfl

end SameName

namespace TwoRules

/-- The hypothesis of `active_names_distinct_tfae` is satisfiable: rules of two names are
compiled as two modules, and the key of each can be told from the path of its query. -/
theorem active_names_distinct_tfae_twoRules :
    (Engine.init backend tree config).outcome = .ok engine ∧
      (Engine.init backend tree config).calls.filterMap BackendCall.queryPath? =
        ["data.iacguard.l", "data.iacguard.q"] ∧
      queryName "data.iacguard.q" = "q" ∧ engine.NamesDistinct ∧
      engine.KeysRecoverable config.queryBase := by
  obtain ⟨-, hqueries, hnames, s, files, -, -, htfae⟩ :=
    Engine.active_names_distinct_tfae outcome_init
  have hpaths : (Engine.init backend tree config).calls.filterMap BackendCall.queryPath? =
      ["data.iacguard.l", "data.iacguard.q"] := by
    rw [hqueries]
    rfl
  have hnodup : ((Engine.init backend tree config).calls.filterMap
      BackendCall.queryPath?).Nodup := by
    rw [hpaths]
    decide
  exact ⟨outcome_init, hpaths, (hnames "q" (compiled "q") rfl).2, (htfae.out 3 0).1 hnodup,
    (htfae.out 3 4).1 hnodup⟩

end TwoRules

end Rulebook
