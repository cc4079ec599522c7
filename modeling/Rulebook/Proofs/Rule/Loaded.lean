/-
# What a rule is loaded as

Specification §4.2 (Rule Repository Loader).

A rule is loaded with its name among its arguments and with the text that its body file
gives for these arguments. `LoadedRule.Renders` says what that comes to, without saying how
it is found: the rule is the parsed one but for the argument, the body path is canonical,
and the body is what the contents at that path are rendered as.
-/

import Rulebook.RuleSet
import Rulebook.Proofs.SortedMap

namespace Rulebook

namespace Rule

variable {r : Rule}

/-- Only the arguments of a rule change when its name is put among them. -/
theorem withNameArg_eq (r : Rule) :
    r.withNameArg = { r with templateArgs := r.withNameArg.templateArgs } := by
  unfold withNameArg
  split <;> rfl

/-- A rule keeps its reference id when it gets its name as an argument. -/
@[simp] theorem referenceId_withNameArg (r : Rule) : r.withNameArg.referenceId = r.referenceId := by
  rw [withNameArg_eq]

/-- The name is put among the arguments where there is none of that key. -/
theorem get?_templateArgs_withNameArg (r : Rule) (key : String) :
    r.withNameArg.templateArgs.get? key =
      if key = "name" ∧ r.templateArgs.get? key = none then some (.string r.name)
      else r.templateArgs.get? key := by
  unfold withNameArg SortedMap.contains
  rcases hname : r.templateArgs.get? nameArg with _ | value
  · rw [if_neg (by simp)]
    by_cases hkey : key = nameArg
    · subst hkey
      rw [SortedMap.get?_insert_self, if_pos ⟨rfl, hname⟩]
    · rw [SortedMap.get?_insert_of_ne _ hkey, if_neg fun h => hkey h.1]
  · rw [if_pos (by simp), if_neg]
    rintro ⟨rfl, hnone⟩
    cases hname.symm.trans hnone

/-- A body is taken when it can be rendered and is not blank. -/
theorem withBody_eq_ok_iff {bodyPath : Path} {bytes : List UInt8} {loaded : LoadedRule} :
    r.withBody bodyPath bytes = .ok loaded ↔
      loaded.rule = r ∧ loaded.bodyPath = bodyPath ∧
        renderBody bytes r.templateArgs = .ok loaded.body ∧
        Text.isBlankText loaded.body = false := by
  unfold withBody
  rcases renderBody bytes r.templateArgs with e | body
  · simp
  · simp only
    by_cases hblank : Text.isBlankText body = true
    · rw [if_pos hblank]
      constructor
      · intro h
        cases h
      · rintro ⟨-, -, hbody, hnot⟩
        rw [← Except.ok.inj hbody, hblank] at hnot
        cases hnot
    · rw [if_neg hblank]
      constructor
      · intro h
        obtain rfl := Except.ok.inj h
        exact ⟨rfl, rfl, rfl, Bool.eq_false_iff.2 hblank⟩
      · rintro ⟨rfl, rfl, hbody, -⟩
        rw [Except.ok.inj hbody]

/-- No body is a reason to call a rule registered. -/
theorem withBody_ne_error_registered {bodyPath : Path} {bytes : List UInt8} {id : String} :
    r.withBody bodyPath bytes ≠ .error (.registered id) := by
  unfold withBody
  split
  · simp
  · split <;> simp

end Rule

/-- A loaded rule is what a rule and its body file give: the rule has its name among its
arguments, and the body is what the contents of the file are rendered as with them. -/
structure LoadedRule.Renders (tree : FileTree) (directory : Path) (r : Rule)
    (loaded : LoadedRule) : Prop where
  rule_eq : loaded.rule = { r with templateArgs := loaded.rule.templateArgs }
  get?_args : ∀ key, loaded.rule.templateArgs.get? key =
    if key = "name" ∧ r.templateArgs.get? key = none then some (.string r.name)
    else r.templateArgs.get? key
  canonicalize_eq : tree.canonicalize (directory.join ⟨r.file⟩) = .ok loaded.bodyPath
  render_eq : ∃ bytes, tree.read loaded.bodyPath = .ok bytes ∧
    renderBody bytes loaded.rule.templateArgs = .ok loaded.body
  not_blank : Text.isBlankText loaded.body = false

namespace LoadedRule.Renders

variable {tree : FileTree} {directory : Path} {r : Rule} {loaded : LoadedRule}

/-- What a rule is rendered as has the reference id of the rule. -/
theorem referenceId_eq (h : loaded.Renders tree directory r) :
    loaded.rule.referenceId = r.referenceId := by
  rw [h.rule_eq]

/-- The arguments of a loaded rule are the rule's own with its name among them. -/
theorem rule_eq_withNameArg (h : loaded.Renders tree directory r) :
    loaded.rule = r.withNameArg := by
  have hargs : loaded.rule.templateArgs = r.withNameArg.templateArgs := by
    refine SortedMap.ext_get? fun key => ?_
    rw [h.get?_args, Rule.get?_templateArgs_withNameArg]
  rw [h.rule_eq, hargs, ← Rule.withNameArg_eq]

end LoadedRule.Renders

end Rulebook
