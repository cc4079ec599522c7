/-
# Walking a file tree

Specification §4.2 (Rule Repository Loader).

A walk lists the directories in and below a path, sorted by path. Links below are not
followed, so every directory is met once. A link at the path itself is followed to the
directories below it, but is not a directory of the walk.
-/

import Rulebook.FileTree.Resolve

namespace Rulebook

/-- A directory that a walk has met. -/
structure Directory where
  /-- The path of the walk with the names that lead here. -/
  path : Path
  entries : List (RawText × FileNode)

mutual

/-- The directories in a node, which has a path: the node itself, if it is one, and those
below it. -/
def FileNode.directories (path : Path) : FileNode → List Directory
  | .directory entries => ⟨path, entries⟩ :: directoriesBelow path entries
  | .file _ => []
  | .device => []
  | .link _ => []

/-- The directories in the entries of a directory. -/
def directoriesBelow (path : Path) : List (RawText × FileNode) → List Directory
  | [] => []
  | (name, node) :: rest =>
    node.directories (path.join ⟨name⟩) ++ directoriesBelow path rest

end

namespace FileTree

/-- The directories in and below a path in the order in which they are met. -/
def directories (tree : FileTree) (root : Path) : Except FileError (List Directory) :=
  match tree.locate false root with
  | .error e => .error e
  | .ok (_, .link _) =>
    match tree.locate true root with
    | .error e => .error e
    | .ok (_, node) => .ok (directoriesBelow root node.entries)
  | .ok (_, node) => .ok (node.directories root)

/-- The directories in and below a path, sorted. -/
def walk (tree : FileTree) (root : Path) : Except FileError (List Directory) :=
  (tree.directories root).map fun ds => ds.mergeSort fun a b => a.path.le b.path

end FileTree

end Rulebook
