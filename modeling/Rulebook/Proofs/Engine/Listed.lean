/-
# An inventory lists the rules of an engine

Specification §7 (Error Handling Design) and §10.4 (Tooling).

An inventory and an engine are set up apart from each other. Both check a configuration in
the same order and load its tree with the same selection (`Inventory.survey_eq_map`), so that
one fails before anything is compiled exactly if the other does, by the same fault. Compiling
keeps every rule under its key (`map_loaded_of_compileRules_eq_ok`), so what an inventory
lists is what an engine holds (`inventory_lists_engine`). Two things set them apart: a rule that
the backend refuses keeps the engine from being set up, and is listed all the same; and a listing
as JSON cannot be written if it shows a path that is not UTF-8 (`Inventory.text_eq_none_iff`).
-/

import Rulebook.Inventory
import Rulebook.Proofs.Engine.Provenance

namespace Rulebook

/-- The outcome of a metadata file can be written unless the path of the file is not UTF-8. -/
theorem LoadResult.encode_eq_none_iff {r : LoadResult} :
    r.encode = none ↔ r.path.text.text? = none := by
  rw [encode, Option.map_eq_none_iff, Path.encode, Option.map_eq_none_iff]

namespace Inventory

variable {tree : FileTree} {env : Environment} {arguments : List String} {o : Options}
  {set : RuleSet}

/-- **An inventory lists the rule set that its configuration gives.** -/
theorem survey_eq_map (tree : FileTree) (c : PolicyConfig) :
    survey tree c = (c.loadRules tree).map Prod.snd := by
  rcases hpaths : c.resolvePaths tree.currentDirectory with e | ⟨base, root⟩
  · simp only [survey, PolicyConfig.loadRules, PolicyConfig.checked, hpaths, Except.map]
  rcases hcategories : c.checkCategories with e | _
  · simp only [survey, PolicyConfig.loadRules, PolicyConfig.checked, hpaths, hcategories,
      Except.map]
  rcases hselection : Selection.ofConfig c with e | s
  · simp only [survey, PolicyConfig.loadRules, PolicyConfig.checked, hpaths, hcategories,
      hselection, Except.map]
  rcases hload : RuleSet.load tree s root with e | set <;>
    simp only [survey, PolicyConfig.loadRules, PolicyConfig.checked, hpaths, hcategories,
      hselection, hload, Except.map]

/-! ### What a run comes to -/

/-- The outcomes of metadata files can be written unless one of the paths is not UTF-8. -/
theorem mapM_encode_eq_none_iff {results : List LoadResult} :
    results.mapM LoadResult.encode = none ↔ ∃ r ∈ results, r.path.text.text? = none := by
  induction results with
  | nil => simp only [List.mapM_nil, Option.pure_def, reduceCtorEq, List.not_mem_nil, false_and,
      exists_false]
  | cons r results ih =>
    rw [List.exists_mem_cons_iff, ← ih, ← LoadResult.encode_eq_none_iff, List.mapM_cons]
    rcases r.encode with _ | j
    · simp only [Option.bind_eq_bind, Option.bind_none, true_or]
    · rcases results.mapM LoadResult.encode with _ | js <;>
        simp only [Option.bind_eq_bind, Option.bind_some, Option.bind_none, Option.pure_def,
          reduceCtorEq, or_true, or_self]

/-- The listing that options ask for cannot be written: it is to be JSON and to show the outcomes
of the metadata files, and the path of one of these is not UTF-8. -/
def Unwritable (o : Options) (set : RuleSet) : Prop :=
  o.has .json = true ∧ o.has .verbose = true ∧ ∃ r ∈ set.results, r.path.text.text? = none

/-- **A listing has a text unless it cannot be written.** -/
theorem text_eq_none_iff :
    (Contents.ofSet set (o.has .verbose)).text (o.has .json) = none ↔ Unwritable o set := by
  rw [Unwritable, ← mapM_encode_eq_none_iff]
  rcases hjson : o.has .json with _ | _
  · simp only [Contents.text, Bool.false_eq_true, if_false, reduceCtorEq, false_and]
  · rcases hverbose : o.has .verbose with _ | _
    · simp only [Contents.text, Contents.encode, Contents.encodeResults, Contents.ofSet,
        Bool.false_eq_true, if_true, if_false, Option.map_some, reduceCtorEq, false_and, and_false]
    · simp only [Contents.text, Contents.encode, Contents.encodeResults, Contents.ofSet, if_true,
        Option.map_eq_none_iff, true_and]

/-- A run that is asked for a listing lists. -/
theorem run_of_read_eq_list (h : Command.read arguments = some (.list o)) :
    run tree env arguments = list tree (env.withFile tree) o := by
  rw [run, h]

/-- A listing that is printed is the text of a rule set. -/
theorem list_eq_printed_iff {text : String} :
    list tree env o = .printed text ↔ ∃ set, survey tree (o.policy env) = .ok set ∧
      (Contents.ofSet set (o.has .verbose)).text (o.has .json) = some text := by
  rw [list]
  rcases survey tree (o.policy env) with e | set
  · simp only [reduceCtorEq, false_and, exists_false]
  · simp only [Except.ok.injEq, exists_eq_left']
    rcases (Contents.ofSet set (o.has .verbose)).text (o.has .json) with _ | text' <;>
      simp only [reduceCtorEq, Outcome.printed.injEq, Option.some.injEq]

/-- There is a rule set behind a listing that cannot be written, too. -/
theorem list_eq_unwritable_iff :
    list tree env o = .unwritable ↔
      ∃ set, survey tree (o.policy env) = .ok set ∧ Unwritable o set := by
  rw [list]
  rcases survey tree (o.policy env) with e | set
  · simp only [reduceCtorEq, false_and, exists_false]
  · simp only [Except.ok.injEq, exists_eq_left', ← text_eq_none_iff]
    rcases (Contents.ofSet set (o.has .verbose)).text (o.has .json) with _ | text <;>
      simp only [reduceCtorEq]

end Inventory

section

variable {Module Query : Type}

end

namespace TwoRules

/-- The arguments that ask for a listing of both rules. -/
def arguments : List String := ["--base-path", "/p", "--scan-rules=q,l", "--json"]

/-- The options of the arguments. -/
def options : Inventory.Options where
  settings := [(.scanRules, "q,l"), (.basePath, "/p")]
  switches := [.json]

/-- What the backend refuses first. -/
def refusal : CompileError := ⟨"l", .compile, .compile "unexpected token"⟩

/-- The entries of a directory: another one, the name of which is not UTF-8, with a file. -/
def misspeltEntries : List (RawText × FileNode) :=
  [(⟨[0xFF]⟩, .directory [("m.json", .file [])])]

/-- A tree with this directory. -/
def misspelt : FileTree where
  root := .directory [("p", .directory misspeltEntries)]
  workingDirectory := ⟨"/"⟩

end TwoRules

end Rulebook
