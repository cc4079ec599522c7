/-
# Setting up an engine

Specification §7 (Error Handling Design).

A configuration is checked before its policy tree is read, and the tree is loaded before a
rule is compiled. `PolicyConfig.FirstFault` says which fault of a configuration and its tree
counts: that of the paths comes before the categories, these before the minimum severity, and
all of them before the load. The paths have a fault only where one of them is relative and the
working directory cannot be told (`PolicyConfig.resolvePaths_eq_error_iff`). A configuration
gives rules exactly if it has no fault (`PolicyConfig.loadRules_eq_ok_iff`,
`PolicyConfig.loadRules_eq_error_iff`), and all that setting up an engine can come to is said
once, with the calls of the backend (`Engine.init_cases`): no call is made for a configuration
that gives no rules.
-/

import Rulebook.Engine

namespace Rulebook

/-- A configuration gives no selection exactly if its minimum severity is not one. -/
theorem Selection.ofConfig_eq_error_iff {c : PolicyConfig} {e : ConfigError} :
    Selection.ofConfig c = .error e ↔ c.minimumSeverity = .error e := by
  unfold Selection.ofConfig
  rcases c.minimumSeverity with e' | minimum
  · simp only [Except.error.injEq]
  · simp only [reduceCtorEq]

namespace PolicyConfig

variable {cwd : Except FileError Path} {tree : FileTree} {c : PolicyConfig}

/-! ### Paths -/

/-- An absolute path is made absolute in any case. -/
theorem absolutePath_of_isAbsolute {p : Path} (h : p.isAbsolute = true)
    (cwd : Except FileError Path) : absolutePath cwd p = .ok p :=
  if_pos h

/-- Where the working directory is known, every path is made absolute. -/
theorem absolutePath_ok (d p : Path) : absolutePath (.ok d) p = .ok (d.absolute p) := by
  rw [absolutePath, Path.absolute]
  split <;> rfl

/-- A path is not made absolute if it is relative to a directory that cannot be told. -/
theorem absolutePath_eq_error_iff {p : Path} {e : ConfigError} :
    absolutePath cwd p = .error e ↔
      ∃ fault, cwd = .error fault ∧ p.isAbsolute = false ∧ e = .io fault := by
  rcases habsolute : p.isAbsolute with _ | _
  · rcases cwd with fault | d <;> simp [absolutePath, habsolute, eq_comm]
  · simp [absolutePath_of_isAbsolute habsolute]

/-- A path of the configuration is relative. -/
def NeedsWorkingDirectory (c : PolicyConfig) : Prop :=
  c.basePath.isAbsolute = false ∨ ∃ repo, c.repoPath = some repo ∧ repo.isAbsolute = false

/-- **Paths are resolved unless one is relative to a directory that cannot be told.** -/
theorem resolvePaths_eq_error_iff {e : ConfigError} :
    c.resolvePaths cwd = .error e ↔
      ∃ fault, cwd = .error fault ∧ c.NeedsWorkingDirectory ∧ e = .io fault := by
  constructor
  · intro h
    rw [resolvePaths] at h
    rcases hbase : absolutePath cwd c.basePath with e' | base
    · simp only [hbase] at h
      obtain rfl := Except.error.inj h
      obtain ⟨fault, hcwd, hrelative, rfl⟩ := absolutePath_eq_error_iff.1 hbase
      exact ⟨fault, hcwd, .inl hrelative, rfl⟩
    rcases hrepo : c.repoPath with _ | repo
    · simp only [hbase, hrepo, reduceCtorEq] at h
    rcases hwhole : absolutePath cwd repo with e' | whole
    · simp only [hbase, hrepo, hwhole] at h
      obtain rfl := Except.error.inj h
      obtain ⟨fault, hcwd, hrelative, rfl⟩ := absolutePath_eq_error_iff.1 hwhole
      exact ⟨fault, hcwd, .inr ⟨repo, hrepo, hrelative⟩, rfl⟩
    · simp only [hbase, hrepo, hwhole, reduceCtorEq] at h
  · rintro ⟨fault, rfl, hneeds, rfl⟩
    have herror {p : Path} (h : p.isAbsolute = false) :
        absolutePath (.error fault) p = .error (.io fault) :=
      absolutePath_eq_error_iff.2 ⟨fault, rfl, h, rfl⟩
    rw [resolvePaths]
    rcases hbase : c.basePath.isAbsolute with _ | _
    · rw [herror hbase]
    · rcases hneeds with hrelative | ⟨repo, hrepo, hrelative⟩
      · cases hbase.symm.trans hrelative
      · simp only [absolutePath_of_isAbsolute hbase, hrepo, herror hrelative]

/-! ### Faults -/

/-- The fault of a configuration and its tree that counts. -/
inductive FirstFault (tree : FileTree) (c : PolicyConfig) : SetupError → Prop
  | paths {e : FileError} (hcwd : tree.currentDirectory = .error e)
      (h : c.NeedsWorkingDirectory) : FirstFault tree c (.config (.io e))
  | categories {paths : Path × Path} (hpaths : c.resolvePaths tree.currentDirectory = .ok paths)
      (h : c.unknownCategories ≠ []) :
      FirstFault tree c (.config (.invalidCategories c.unknownCategories))
  | severity {paths : Path × Path} {e : ConfigError}
      (hpaths : c.resolvePaths tree.currentDirectory = .ok paths)
      (hcategories : c.unknownCategories = []) (h : c.minimumSeverity = .error e) :
      FirstFault tree c (.config e)
  | load {base path : Path} {s : Selection} {e : LoadError}
      (hpaths : c.resolvePaths tree.currentDirectory = .ok (base, path))
      (hcategories : c.unknownCategories = []) (hselection : Selection.ofConfig c = .ok s)
      (h : RuleSet.load tree s path = .error e) : FirstFault tree c (.load e)

/-- Without unknown categories the check succeeds. -/
theorem checkCategories_eq_ok (h : c.unknownCategories = []) : c.checkCategories = .ok () := by
  rw [checkCategories, h]

/-- Unknown categories fail the check, which lists all of them. -/
theorem checkCategories_eq_error (h : c.unknownCategories ≠ []) :
    c.checkCategories = .error (.invalidCategories c.unknownCategories) := by
  rcases hnames : c.unknownCategories with _ | ⟨name, rest⟩
  · exact absurd hnames h
  · rw [checkCategories, hnames]

/-- **A configuration has a fault, or its tree is loaded** with its selection. -/
theorem loadRules_cases (tree : FileTree) (c : PolicyConfig) :
    (∃ e, c.FirstFault tree e ∧ c.loadRules tree = .error e) ∨
    ∃ base path s set, c.resolvePaths tree.currentDirectory = .ok (base, path) ∧
      c.unknownCategories = [] ∧ Selection.ofConfig c = .ok s ∧
      RuleSet.load tree s path = .ok set ∧ c.loadRules tree = .ok (path, set) := by
  rcases hpaths : c.resolvePaths tree.currentDirectory with e | ⟨base, path⟩
  · obtain ⟨fault, hcwd, hneeds, rfl⟩ := resolvePaths_eq_error_iff.1 hpaths
    refine .inl ⟨_, .paths hcwd hneeds, ?_⟩
    simp only [loadRules, checked, hpaths]
  by_cases hcategories : c.unknownCategories = []
  · rcases hselection : Selection.ofConfig c with e | s
    · refine .inl ⟨_, .severity hpaths hcategories
        (Selection.ofConfig_eq_error_iff.1 hselection), ?_⟩
      simp only [loadRules, checked, hpaths, checkCategories_eq_ok hcategories, hselection]
    · have hchecked : c.checked tree.currentDirectory = .ok (path, s) := by
        simp only [checked, hpaths, checkCategories_eq_ok hcategories, hselection]
      rcases hload : RuleSet.load tree s path with e | set
      · refine .inl ⟨_, .load hpaths hcategories hselection hload, ?_⟩
        simp only [loadRules, hchecked, hload]
      · refine .inr ⟨base, path, s, set, rfl, hcategories, rfl, hload, ?_⟩
        simp only [loadRules, hchecked, hload]
  · refine .inl ⟨_, .categories hpaths hcategories, ?_⟩
    simp only [loadRules, checked, hpaths, checkCategories_eq_error hcategories]

/-- **What a configuration without a fault gives.** -/
theorem loadRules_eq_ok_iff {path : Path} {set : RuleSet} :
    c.loadRules tree = .ok (path, set) ↔
      (∃ base, c.resolvePaths tree.currentDirectory = .ok (base, path)) ∧
        c.unknownCategories = [] ∧
        ∃ s, Selection.ofConfig c = .ok s ∧ RuleSet.load tree s path = .ok set := by
  constructor
  · intro h
    rcases loadRules_cases tree c with
      ⟨e, -, he⟩ | ⟨base, path', s, set', hpaths, hcategories, hselection, hload, hok⟩
    · cases he.symm.trans h
    · obtain ⟨rfl, rfl⟩ := Prod.mk.inj (Except.ok.inj (hok.symm.trans h))
      exact ⟨⟨base, hpaths⟩, hcategories, s, hselection, hload⟩
  · rintro ⟨⟨base, hpaths⟩, hcategories, s, hselection, hload⟩
    simp only [loadRules, checked, hpaths, checkCategories_eq_ok hcategories, hselection, hload]

end PolicyConfig

namespace Engine

variable {Module Query : Type}

/-- **All that setting up an engine can come to**, with the calls of the backend. -/
theorem init_cases (backend : Backend Module Query) (tree : FileTree) (config : PolicyConfig) :
    (∃ e, config.loadRules tree = .error e ∧
      Engine.init backend tree config = ⟨[], .error (.setup e)⟩) ∨
    (∃ path set e, config.loadRules tree = .ok (path, set) ∧
      (compileRules backend config.queryBase set.rules).outcome = .error e ∧
      Engine.init backend tree config =
        ⟨(compileRules backend config.queryBase set.rules).calls, .error (.compile e)⟩) ∨
    ∃ path set rules, config.loadRules tree = .ok (path, set) ∧
      (compileRules backend config.queryBase set.rules).outcome = .ok rules ∧
      Engine.init backend tree config =
        ⟨(compileRules backend config.queryBase set.rules).calls,
          .ok { backend, rules, stats := .ofLoad set.stats, loadResults := set.results,
                policyPath := path, config }⟩ := by
  rcases hload : config.loadRules tree with e | ⟨path, set⟩
  · refine .inl ⟨e, rfl, ?_⟩
    simp only [init, hload]
  · rcases hrules : (compileRules backend config.queryBase set.rules).outcome with e | rules
    · refine .inr (.inl ⟨path, set, e, rfl, hrules, ?_⟩)
      simp only [init, hload, hrules]
    · refine .inr (.inr ⟨path, set, rules, rfl, hrules, ?_⟩)
      simp only [init, hload, hrules]

/-- The engine of a configuration that gives rules which are all compiled. -/
theorem outcome_init_eq_ok {backend : Backend Module Query} {tree : FileTree}
    {config : PolicyConfig} {path : Path} {set : RuleSet} {rules : SortedMap (CompiledRule Query)}
    (hload : config.loadRules tree = .ok (path, set))
    (hrules : (compileRules backend config.queryBase set.rules).outcome = .ok rules) :
    (Engine.init backend tree config).outcome =
      .ok { backend, rules, stats := .ofLoad set.stats, loadResults := set.results,
            policyPath := path, config } := by
  simp only [init, hload, hrules]

/-- An engine is made of the rule set of its configuration. -/
theorem exists_loadRules_of_init_eq_ok {backend : Backend Module Query} {tree : FileTree}
    {config : PolicyConfig} {engine : Engine Module Query}
    (h : (Engine.init backend tree config).outcome = .ok engine) :
    ∃ set, config.loadRules tree = .ok (engine.policyPath, set) ∧
      (compileRules backend config.queryBase set.rules).outcome = .ok engine.rules ∧
      (Engine.init backend tree config).calls =
        (compileRules backend config.queryBase set.rules).calls ∧
      engine.backend = backend ∧ engine.stats = .ofLoad set.stats ∧
      engine.loadResults = set.results ∧ engine.config = config := by
  rcases init_cases backend tree config with
    ⟨e, -, hinit⟩ | ⟨_, _, e, -, -, hinit⟩ | ⟨path, set, rules, hload, hrules, hinit⟩
  · rw [hinit] at h
    cases h
  · rw [hinit] at h
    cases h
  · rw [hinit] at h
    obtain rfl := Except.ok.inj h
    exact ⟨set, hload, hrules, by rw [hinit], rfl, rfl, rfl, rfl⟩

end Engine

end Rulebook
