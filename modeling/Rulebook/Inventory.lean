/-
# The inventory

Specification §10.4 (Tooling).

The inventory lists the rules that a policy tree would give an engine, without compiling
them. It makes the checks of an engine by itself (`Inventory.survey`). A run depends on the
arguments, the environment variables and the file tree, and ends in one of four ways
(`Inventory.Outcome`).
-/

import Rulebook.RuleSet.Configured
import Rulebook.EnvironmentFile
import Rulebook.Inventory.Options
import Rulebook.Inventory.Listing

namespace Rulebook

/-- The wordings of an error and of its causes. -/
def SetupError.chain : SetupError → List String
  | config e => e.chain
  | load e => e.chain

namespace Inventory

/-- What a run comes to. -/
inductive Outcome where
  /-- A text is printed. -/
  | printed (text : String)
  /-- There is nothing to list. -/
  | failed (error : SetupError)
  /-- The listing cannot be written. -/
  | unwritable
  /-- The command line is malformed. -/
  | misused

/-- The name and the version of the program. -/
def versionText : String := "rules-inventory 0.1.0\n"

/-- What the program does, and its options. -/
def helpText : String :=
  let line (name : String) (description : String) : String :=
    "      " ++ column 31 name ++ description ++ "\n"
  "Policy tree inventory\n\nUsage: rules-inventory [OPTIONS]\n\nOptions:\n" ++
    line "--profile <PROFILE>" "Configuration profile" ++
    line "--base-path <BASE_PATH>" "Policy base path" ++
    line "--repo-path <REPO_PATH>" "Sub-tree of the base path to load" ++
    line "--scan-rules <SCAN_RULES>" "Comma-separated rule ids to restrict loading to" ++
    line "--skip-rules <SKIP_RULES>" "Comma-separated rule ids to exclude" ++
    line "--categories <CATEGORIES>" "Comma-separated categories" ++
    line "--policy-types <POLICY_TYPES>" "Comma-separated policy types" ++
    line "--severity <SEVERITY>" "Minimum rule severity (low, medium, high)" ++
    line "--json" "Print the inventory as JSON" ++
    line "--verbose" "Also report files that were rejected or failed to load"

/-- The rule set that an inventory lists for a configuration. -/
def survey (tree : FileTree) (c : PolicyConfig) : Except SetupError RuleSet :=
  match c.resolvePaths tree.currentDirectory with
  | .error e => .error (.config e)
  | .ok (_, root) =>
    match c.checkCategories with
    | .error e => .error (.config e)
    | .ok () =>
      match Selection.ofConfig c with
      | .error e => .error (.config e)
      | .ok selection =>
        match RuleSet.load tree selection root with
        | .error e => .error (.load e)
        | .ok set => .ok set

/-- Lists the rules of a configuration. -/
def list (tree : FileTree) (env : Environment) (o : Options) : Outcome :=
  match survey tree (o.policy env) with
  | .error e => .failed e
  | .ok set =>
    match (Contents.ofSet set (o.has .verbose)).text (o.has .json) with
    | none => .unwritable
    | some text => .printed text

/-- A run of the program. -/
def run (tree : FileTree) (env : Environment) (arguments : List String) : Outcome :=
  match Command.read arguments with
  | none => .misused
  | some .help => .printed helpText
  | some .version => .printed versionText
  | some (.list o) => list tree (env.withFile tree) o

namespace Outcome

/-- The exit code. -/
def exitCode : Outcome → UInt32
  | printed _ => 0
  | failed _ => 1
  | unwritable => 1
  | misused => 2

/-- The text on standard output. -/
def output : Outcome → String
  | printed text => text
  | failed _ => ""
  | unwritable => ""
  | misused => ""

/-- The text on standard error. -/
def errorOutput : Outcome → String
  | printed _ => ""
  | failed e => "error: " ++ ": ".intercalate e.chain ++ "\n"
  | unwritable => "error: path contains invalid UTF-8 characters\n"
  | misused => "error: malformed command line\n"

end Outcome

end Inventory

end Rulebook
