/-
# Environment files

Specification §10.3 (Configuration).

A file `.env` in the working directory, or in the nearest directory above that has one,
sets environment variables that are not set yet. Its lines count one after the other, so a
value may refer to a variable that an earlier line has set; the first malformed line ends
the reading, and what was set before stays.
-/

import Rulebook.EnvironmentFile.Line
import Rulebook.EnvironmentFile.Assignment
import Rulebook.FileTree.Resolve

namespace Rulebook

namespace EnvironmentFile

/-- The name of environment files. -/
def fileName : RawText := ".env"

/-- The variables after some lines. -/
def applyLines (env : Environment) : List (List Char) → Environment
  | [] => env
  | line :: rest =>
    match readLine env line with
    | .nothing => applyLines env rest
    | .malformed => env
    | .assignment name value =>
      applyLines (if env.contains name then env else env.insert name value) rest

/-- The variables after an environment file. -/
def apply (env : Environment) (bytes : List UInt8) : Environment := applyLines env (linesOf bytes)

/-- The contents of the first environment file in some directories. A directory in which
the name cannot be looked up ends the search. -/
def find? (tree : FileTree) : List Location → Option (List UInt8)
  | [] => none
  | place :: rest =>
    match tree.locate true (locationPath (place ++ [fileName])) with
    | .ok (_, .file bytes) => some bytes
    | .ok _ => find? tree rest
    | .error .notFound => find? tree rest
    | .error _ => none

end EnvironmentFile

/-- A location and those above it, up to the root. -/
def Location.upward (place : Location) : List Location :=
  (List.range (place.length + 1)).reverse.map place.take

/-- The directories that may hold the environment file: the working directory and those above
it, or none if its path cannot be told. -/
def FileTree.environmentPlaces (tree : FileTree) : List Location :=
  match tree.currentDirectory with
  | .error _ => []
  | .ok cwd => Location.upward cwd.pieces

/-- The variables with those of the environment file that is nearest to the working
directory. -/
def Environment.withFile (env : Environment) (tree : FileTree) : Environment :=
  match EnvironmentFile.find? tree tree.environmentPlaces with
  | none => env
  | some bytes => EnvironmentFile.apply env bytes

end Rulebook
