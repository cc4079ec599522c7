/-
# The rule set of a configuration

Specification §4.2 (Rule Repository Loader) and §7 (Error Handling Design).

A configuration is checked before anything is read: its paths are made absolute, then
its categories are checked, then its minimum severity. The first fault counts. Only then
is the policy tree loaded.
-/

import Rulebook.RuleSet

namespace Rulebook

/-- Why a configuration gives no rule set. -/
inductive SetupError where
  | config (error : ConfigError)
  | load (error : LoadError)
deriving DecidableEq, Repr

/-- The directory from which a configuration loads rules, and what it selects from it. -/
def PolicyConfig.checked (cwd : Except FileError Path) (c : PolicyConfig) :
    Except ConfigError (Path × Selection) :=
  match c.resolvePaths cwd with
  | .error e => .error e
  | .ok (_, policyPath) =>
    match c.checkCategories with
    | .error e => .error e
    | .ok () =>
      match Selection.ofConfig c with
      | .error e => .error e
      | .ok selection => .ok (policyPath, selection)

/-- The rule set of a configuration, and the directory from which it was loaded. -/
def PolicyConfig.loadRules (tree : FileTree) (c : PolicyConfig) :
    Except SetupError (Path × RuleSet) :=
  match c.checked tree.currentDirectory with
  | .error e => .error (.config e)
  | .ok (policyPath, selection) =>
    match RuleSet.load tree selection policyPath with
    | .error e => .error (.load e)
    | .ok set => .ok (policyPath, set)

end Rulebook
