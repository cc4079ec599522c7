/-
# Building a file tree

A file tree is built by putting nodes into it one after the other. Directories come into
being where a location needs them; a node replaces what was at its place, except that an
empty directory leaves a directory as it is.
-/

import Rulebook.FileTree.Resolve

namespace Rulebook

/-- The node with another one at a location below it. -/
def FileNode.put (new : FileNode) : Location → FileNode → FileNode
  | [], old =>
    match new, old with
    | .directory [], .directory entries => .directory entries
    | _, _ => new
  | name :: rest, old =>
    let inner := (old.entries.lookup name).getD (.directory [])
    .directory (old.entries.filter (·.1 != name) ++ [(name, new.put rest inner)])

namespace FileTree

/-- The tree without files. -/
def empty (workingDirectory : Path) : FileTree where
  root := .directory []
  workingDirectory := workingDirectory

/-- The tree with a node at a location. -/
def putAt (tree : FileTree) (place : Location) (node : FileNode) : FileTree :=
  { tree with root := node.put place tree.root }

/-- Where names lead from a location, through the links on the way. What does not exist is
taken by its names. -/
def reach (tree : FileTree) (here : Location) : List RawText → Location
  | [] => here
  | name :: rest =>
    match tree.resolve true (locationPath (here ++ [name])) with
    | .ok place => tree.reach place rest
    | .error _ => here ++ name :: rest

/-- The tree with a node at a path, through the links on the way. -/
def put (tree : FileTree) (p : Path) (node : FileNode) : FileTree :=
  let names := (tree.workingDirectory.absolute p).pieces.filter (· ≠ Path.dot)
  tree.putAt (tree.reach [] names) node

end FileTree

end Rulebook
