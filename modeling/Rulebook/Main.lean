/-
# The program

Specification §10.4 (Tooling).

Prints the inventory of the rules that a policy tree would give an engine.

The inventory itself is a function of a file tree, the environment and the arguments.
What is needed of them is recorded first: the environment files above the working
directory, the policy tree, the body files that its metadata files name, and the
environment variables that have a meaning. Recording goes through paths that are texts, so
it does not get to what lies under a name that is not UTF-8.
-/

import Rulebook.Inventory
import Rulebook.FileTree.Build

namespace Rulebook
namespace Inventory

/-- What lies at a location; a link leads to its canonical path. -/
def lookUp (place : Location) : IO (Option FileNode) := do
  let file := System.mkFilePath [(locationPath place).text.display]
  try
    match (← file.symlinkMetadata).type with
    | .dir => return some (.directory [])
    | .file => return some (.file (← IO.FS.readBinFile file).toList)
    | .symlink =>
      try
        return some (.link ⟨(← IO.FS.realPath file).toString⟩)
      catch _ => return some (.link ⟨"/\x00"⟩)
    | .other => return some .device
  catch _ => return none

/-- Records what lies on a way that starts at a location. -/
def recordWay (tree : FileTree) : Location → List RawText → IO FileTree
  | _, [] => return tree
  | here, piece :: rest => do
    if piece = Path.dot then recordWay tree here rest
    else if piece = Path.dots then recordWay tree here.dropLast rest
    else
      let place := here ++ [piece]
      match ← lookUp place with
      | none => return tree
      | some (.link target) =>
        let tree := tree.putAt place (.link target)
        match ← lookUp target.pieces with
        | none => return tree
        | some node => recordWay (tree.putAt target.pieces node) target.pieces rest
      | some node => recordWay (tree.putAt place node) place rest

/-- Records what lies at a path. -/
def recordPath (tree : FileTree) (p : Path) : IO FileTree :=
  recordWay tree [] (tree.workingDirectory.absolute p).pieces

/-- Records what lies below a directory. -/
partial def recordBelow (tree : FileTree) (place : Location) : IO FileTree := do
  let entries ← (System.mkFilePath [(locationPath place).text.display]).readDir
  entries.foldlM
    (fun tree entry => do
      let name : RawText := entry.fileName
      let inner := place ++ [name]
      let tree ← recordWay tree place [name]
      match tree.root.at? inner with
      | some (.directory _) => recordBelow tree inner
      | _ => return tree)
    tree

/-- Records a policy tree and the body files that its metadata files name. -/
def recordPolicy (tree : FileTree) (policyPath : Path) : IO FileTree := do
  let tree ← recordPath tree policyPath
  let tree ← match tree.resolve true policyPath with
    | .ok place => try recordBelow tree place catch _ => pure tree
    | .error _ => pure tree
  let files := match tree.walk policyPath with
    | .ok directories => tree.scan directories
    | .error _ => []
  files.foldlM
    (fun tree file =>
      match file.parsed with
      | .ok rule => recordPath tree (file.directory.join ⟨rule.file⟩)
      | .error _ => return tree)
    tree

/-- The variables that a policy configuration consists of. -/
def policyVariables : List String :=
  [ "IACGUARD_POLICY_BASE_PATH", "IACGUARD_POLICY_REPO_PATH", "IACGUARD_SCAN_RULES",
    "IACGUARD_SKIP_RULES", "IACGUARD_CATEGORIES", "IACGUARD_POLICY_TYPES",
    "IACGUARD_SEVERITY", "IACGUARD_QUERY_BASE" ]

/-- The names that an environment file may set or refer to. -/
def namesIn (bytes : List UInt8) : List String :=
  match Text.decodeUtf8 bytes with
  | .error _ => []
  | .ok text =>
    let groups (p : Char → Bool) := text.toList.splitBy fun a b => p a == p b
    (groups EnvironmentFile.isNameChar ++
      groups fun c => EnvironmentFile.isNameChar c || c == '_' || c == '.').map String.ofList

/-- Records the values of variables. -/
def recordVariables (env : Environment) (names : List String) : IO Environment :=
  names.foldlM
    (fun env name => do
      match ← IO.getEnv name with
      | some value => return env.insert name value
      | none => return env)
    env

/-- Records what a listing depends on. -/
def record (tree : FileTree) (o : Options) : IO (FileTree × Environment) := do
  let above := tree.environmentPlaces
  let tree ← above.foldlM
    (fun tree place => recordPath tree (locationPath (place ++ [EnvironmentFile.fileName]))) tree
  let mentioned := ((EnvironmentFile.find? tree above).map namesIn).getD []
  let env ← recordVariables .empty ("IACGUARD_PROFILE" :: policyVariables ++ mentioned)
  let profile := Text.upper (o.profile (env.withFile tree))
  let env ← recordVariables env (policyVariables.map fun name => profile ++ "_" ++ name)
  match (o.policy (env.withFile tree)).resolvePaths tree.currentDirectory with
  | .error _ => return (tree, env)
  | .ok (_, policyPath) => return (← recordPolicy tree policyPath, env)

/-- The tree of which nothing is known but the working directory. -/
def recordWorkingDirectory : IO FileTree := do
  try
    return .empty ⟨(← IO.currentDir).toString⟩
  catch e =>
    let fault := match e with
      | .permissionDenied .. => .denied
      | _ => .notFound
    return { FileTree.empty ⟨"/"⟩ with workingDirectoryFault := some fault }

end Inventory
end Rulebook

open Rulebook in
def main (arguments : List String) : IO UInt32 := do
  let tree ← Inventory.recordWorkingDirectory
  let (tree, env) ← match Inventory.Command.read arguments with
    | some (.list o) => Inventory.record tree o
    | _ => pure (tree, .empty)
  let outcome := Inventory.run tree env arguments
  IO.print outcome.output
  IO.eprint outcome.errorOutput
  return outcome.exitCode
