/-
# Categories are checked as they are matched

Specification §4.1 (Filter Specification primitives) and §10.3 (Configuration).

The check of a configuration and the filter on categories look at labels in one form: trimmed and
in upper case. The check compares this form of an entry with the accepted categories, the filter
with this form of a rule's category. So two entries that the filter cannot tell apart have the same
form (`sameCategory_iff`), and the check treats them alike. And a rule that passes the filter has
the form of an entry, which the check has accepted: where categories are configured, no rule is
active whose category is not an accepted one. A blank entry is never accepted, so neither is a rule
without a category active there.
-/

import Rulebook.Proofs.Engine.Provenance

namespace Rulebook

/-- A label names a category that rules may declare, up to case and white space. -/
def IsAcceptedCategory (label : String) : Prop := normalizeLabel label ∈ acceptedCategories

instance (label : String) : Decidable (IsAcceptedCategory label) :=
  inferInstanceAs (Decidable (normalizeLabel label ∈ acceptedCategories))

/-- Two entries select the same rules by their category. -/
def SameCategory (a b : String) : Prop :=
  ∀ r, (Filter.category [a]).satisfies r = (Filter.category [b]).satisfies r

/-- A rule of which only the category is known. -/
def Rule.ofCategory (category : String) : Rule where
  name := ""
  file := ""
  templateArgs := .empty
  severity := .low
  description := ""
  referenceId := ""
  category := category
  version := 0
  id := ""
  resourceType := ""
  policyType := ""

/-- A rule is among one category if this is spelled as its own, up to case. -/
theorem Rule.categoryAmong_singleton {r : Rule} {label : String} :
    r.CategoryAmong [label] ↔ normalizeLabel label = normalizeLabel r.category := by
  simp [Rule.CategoryAmong]

/-- **Entries that select the same rules have the same form.** -/
theorem sameCategory_iff {a b : String} :
    SameCategory a b ↔ normalizeLabel a = normalizeLabel b := by
  have hselects (r : Rule) (label : String) : (Filter.category [label]).satisfies r = true ↔
      normalizeLabel label = normalizeLabel r.category := by
    rw [Filter.satisfies_category_iff, Rule.categoryAmong_singleton]
  constructor
  · intro h
    have hown := (hselects (.ofCategory a) a).2 rfl
    rw [h] at hown
    exact ((hselects _ b).1 hown).symm
  · intro h r
    rw [Bool.eq_iff_iff, hselects, hselects, h]

/-- Of two spellings of a category both are accepted or neither is. -/
theorem SameCategory.isAcceptedCategory_iff {a b : String} (h : SameCategory a b) :
    IsAcceptedCategory a ↔ IsAcceptedCategory b := by
  rw [IsAcceptedCategory, IsAcceptedCategory, sameCategory_iff.1 h]

namespace PolicyConfig

variable {c : PolicyConfig}

/-- The entries that name no accepted category. -/
def offending (c : PolicyConfig) : List String :=
  c.categories.filter fun entry => ¬ IsAcceptedCategory entry

/-- What the check complains about are the offending entries, normalized. -/
theorem unknownCategories_eq_map (c : PolicyConfig) :
    c.unknownCategories = c.offending.map normalizeLabel := by
  rw [unknownCategories, offending, List.filter_map]
  refine congrArg (List.map normalizeLabel) (List.filter_congr fun entry _ => ?_)
  rw [Function.comp_apply, List.contains_eq_mem, decide_not]
  rfl

/-- No entry offends exactly if all are accepted. -/
theorem offending_eq_nil_iff :
    c.offending = [] ↔ ∀ entry ∈ c.categories, IsAcceptedCategory entry := by
  simp [offending]

/-- No category is unknown exactly if all entries are accepted. -/
theorem unknownCategories_eq_nil_iff :
    c.unknownCategories = [] ↔ ∀ entry ∈ c.categories, IsAcceptedCategory entry := by
  rw [unknownCategories_eq_map, List.map_eq_nil_iff, offending_eq_nil_iff]

/-- **The check passes exactly if every entry is accepted.** -/
theorem checkCategories_eq_ok_iff :
    c.checkCategories = .ok () ↔ ∀ entry ∈ c.categories, IsAcceptedCategory entry := by
  rw [← unknownCategories_eq_nil_iff]
  by_cases h : c.unknownCategories = []
  · exact ⟨fun _ => h, fun _ => checkCategories_eq_ok h⟩
  · rw [checkCategories_eq_error h]
    exact ⟨fun hok => (by cases hok), fun hnil => absurd hnil h⟩

/-- **What the check reports otherwise.** -/
theorem checkCategories_eq_error_iff {e : ConfigError} :
    c.checkCategories = .error e ↔
      c.offending ≠ [] ∧ e = .invalidCategories (c.offending.map normalizeLabel) := by
  rw [← unknownCategories_eq_map]
  by_cases h : c.unknownCategories = []
  · have hnil : c.offending = [] := by
      rwa [unknownCategories_eq_map, List.map_eq_nil_iff] at h
    rw [checkCategories_eq_ok h]
    exact ⟨fun herror => (by cases herror), fun hsome => absurd hnil hsome.1⟩
  · have hsome : c.offending ≠ [] := by
      rwa [unknownCategories_eq_map, List.map_eq_nil_iff] at h
    rw [checkCategories_eq_error h, Except.error.injEq]
    exact ⟨fun heq => ⟨hsome, heq.symm⟩, fun heq => heq.2.symm⟩

/-- Entries that select the same rules can take each other's place. -/
theorem checkCategories_congr {a b : String} (h : SameCategory a b) (c : PolicyConfig)
    (before after : List String) :
    { c with categories := before ++ a :: after }.checkCategories =
      { c with categories := before ++ b :: after }.checkCategories := by
  have hunknown : { c with categories := before ++ a :: after }.unknownCategories =
      { c with categories := before ++ b :: after }.unknownCategories := by
    simp only [unknownCategories, List.map_append, List.map_cons, sameCategory_iff.1 h]
  rw [checkCategories, checkCategories, hunknown]

end PolicyConfig

section

variable {Module Query : Type}

/-- **An active rule has an accepted category**, where categories are configured. -/
theorem Engine.isAcceptedCategory_of_get?_eq_some {backend : Backend Module Query}
    {tree : FileTree} {config : PolicyConfig} {engine : Engine Module Query}
    (h : (Engine.init backend tree config).outcome = .ok engine) (hsome : config.categories ≠ [])
    {id : String} {c : CompiledRule Query} (hget : engine.rules.get? id = some c) :
    IsAcceptedCategory c.rule.category := by
  obtain ⟨_, hload, -⟩ := exists_loadRules_of_init_eq_ok h
  have hchecked := (PolicyConfig.loadRules_eq_ok_iff.1 hload).2.1
  obtain ⟨entry, hentry, hsame⟩ := (admits_of_get?_eq_some h hget).1.category hsome
  have haccepted := PolicyConfig.unknownCategories_eq_nil_iff.1 hchecked entry hentry
  rwa [IsAcceptedCategory, hsame] at haccepted

/-- **Categories are checked as they are matched.**  The check of a configuration passes exactly if
every entry names an accepted category, and reports the offending entries otherwise: normalized, in
their order, and as often as they stand there. Entries that select the same rules are both accepted
or both not, and can take each other's place in any configuration. If categories are configured and
there is an engine, then every active rule has an accepted category. -/
theorem categories_checked_as_matched (backend : Backend Module Query) (tree : FileTree)
    (config : PolicyConfig) :
    (config.checkCategories = .ok () ↔ ∀ entry ∈ config.categories, IsAcceptedCategory entry) ∧
    (∀ e, config.checkCategories = .error e ↔ config.offending ≠ [] ∧
      e = .invalidCategories (config.offending.map normalizeLabel)) ∧
    (∀ a b, SameCategory a b → (IsAcceptedCategory a ↔ IsAcceptedCategory b) ∧
      ∀ before after, { config with categories := before ++ a :: after }.checkCategories =
        { config with categories := before ++ b :: after }.checkCategories) ∧
    ∀ engine, config.categories ≠ [] →
      (Engine.init backend tree config).outcome = .ok engine →
      ∀ id c, engine.rules.get? id = some c → IsAcceptedCategory c.rule.category :=
  ⟨PolicyConfig.checkCategories_eq_ok_iff, fun _ => PolicyConfig.checkCategories_eq_error_iff,
    fun _ _ h => ⟨h.isAcceptedCategory_iff, config.checkCategories_congr h⟩,
    fun _ hsome h _ _ hget => Engine.isAcceptedCategory_of_get?_eq_some h hsome hget⟩

end

/-! ### A rule with a category beside one without -/

namespace Labelled

/-- The rule with a category. -/
def rule : Rule := Shelf.rule "l" "l" "Resilience\u00a0"

/-- The contents of its metadata file. -/
def metadata : List UInt8 := Shelf.metadata "l" "l" "Resilience\u00a0"

/-- The metadata files of the rules. -/
def files : List (RawText × List UInt8) := [("l.json", metadata), ("q.json", TwoRules.metadata "q")]

/-- A tree with the rules. -/
def tree : FileTree := Shelf.tree files Shelf.plain

/-- A configuration that asks for a category, in other letters. -/
def config : PolicyConfig where
  basePath := ⟨"/p"⟩
  categories := ["\tresilience", "Logging and Monitoring"]

/-- The selection of the configuration. -/
def selection : Selection := { categories := config.categories }

/-- The rule as it is loaded. -/
def loaded : LoadedRule := ⟨rule.withNameArg, "deny", ⟨"/p/x"⟩⟩

/-- The rule as it is compiled. -/
def compiled : CompiledRule String := ⟨loaded, "data.iacguard.l"⟩

/-- The rules as they are loaded from their files. -/
def set : RuleSet := (Loading.uncached tree selection (files.map Shelf.scanned)).finish

/-- The engine of the configuration. -/
def engine : Engine Unit String where
  backend := TwoRules.backend
  rules := .ofList [("l", compiled)]
  stats := .ofLoad set.stats
  loadResults := set.results
  policyPath := ⟨"/p"⟩
  config := config

/-- The configuration gives the rules of the tree. -/
theorem loadRules_eq : config.loadRules tree = .ok (⟨"/p"⟩, set) := by
  have horderly : Shelf.Orderly files := by decide +kernel
  have hchecked : config.unknownCategories = [] := by decide
  exact Shelf.loadRules_tree horderly rfl rfl hchecked rfl

/-- The rule without a category is not registered. -/
theorem registration?_unlabelled :
    tree.registration? selection (Shelf.scanned ("q.json", TwoRules.metadata "q")) = none := by
  have hparsed : Rule.ofBytes (TwoRules.metadata "q") = .ok (TwoRules.rule "q") :=
    TwoRules.ofBytes_metadata.2
  have hscreen : selection.screen (TwoRules.rule "q") = some .notAllowed := by decide
  have hpick : selection.pick (Rule.ofBytes (TwoRules.metadata "q")) =
      .error (.rejected .notAllowed) := by
    rw [hparsed, Selection.pick, hscreen]
  rw [FileTree.registration?, FileTree.loadRule, FileTree.source, Shelf.scanned, hpick]
  rfl

/-- The rules of the tree make an engine. -/
theorem outcome_init : (Engine.init TwoRules.backend tree config).outcome = .ok engine := by
  have hlabelled : tree.registration? selection (Shelf.scanned ("l.json", metadata)) =
      some ("l", loaded) :=
    FileTree.registers_iff.1
      (Shelf.registers_plain _ (Shelf.ofBytes_metadata (by cbv)) (by decide))
  have hset : set.rules = .ofList [("l", loaded)] := by
    show SortedMap.ofList ((files.map Shelf.scanned).filterMap (tree.registration? selection)) = _
    rw [files, List.map_cons, List.map_singleton, List.filterMap_cons_some hlabelled,
      List.filterMap_cons_none registration?_unlabelled]
    rfl
  have hrules : (compileRules TwoRules.backend config.queryBase set.rules).outcome =
      .ok engine.rules := by
    rw [hset]
    rfl
  exact Engine.outcome_init_eq_ok loadRules_eq hrules

/-- The hypotheses of `categories_checked_as_matched` are satisfiable: the entry of a
configuration, the category of a rule and the name of an accepted category are the same up to case
and white space, and the rule with this category is active. -/
theorem categories_checked_as_matched_labelled :
    (Engine.init TwoRules.backend tree config).outcome = .ok engine ∧
      config.categories ≠ [] ∧ engine.rules.get? "l" = some compiled ∧
      IsAcceptedCategory compiled.rule.category ∧
      SameCategory "\tresilience" rule.category ∧
      (IsAcceptedCategory "\tresilience" ↔ IsAcceptedCategory rule.category) ∧
      engine.rules.get? "q" = none := by
  obtain ⟨-, -, hsame, hactive⟩ := categories_checked_as_matched TwoRules.backend tree config
  have hsome : config.categories ≠ [] := List.cons_ne_nil _ _
  have hget : engine.rules.get? "l" = some compiled := by rfl
  have hform : SameCategory "\tresilience" rule.category := sameCategory_iff.2 (by decide)
  exact ⟨outcome_init, hsome, hget, hactive engine hsome outcome_init "l" compiled hget, hform,
    (hsame _ _ hform).1, by rfl⟩

end Labelled

end Rulebook
