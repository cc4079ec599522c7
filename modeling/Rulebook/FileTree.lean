/-
# File trees

A `FileTree` is a file system as it stands, with a working directory. The entries of a
directory come in no particular order, and their names are bytes, which need not be UTF-8. A
`Location` is the list of names that lead from the root to a node, without dots and links;
`locationPath` writes it as the canonical path of the node.

Whoever looks at a tree may list and read all of it, and it does not change meanwhile: a
directory that cannot be listed and a file that cannot be opened, for want of permission or
because the device fails, have no place in it. Only the path of the working directory may be
out of reach (`FileTree.currentDirectory`), as it is once the directory has been removed.
-/

import Rulebook.Path

namespace Rulebook

/-- What lies at a place of a file tree. -/
inductive FileNode where
  | file (bytes : List UInt8)
  /-- Neither a file nor a directory; it reads as empty. -/
  | device
  | link (target : Path)
  | directory (entries : List (RawText × FileNode))

instance : Inhabited FileNode := ⟨.device⟩

/-- The entries of a directory; of any other node, none. -/
def FileNode.entries : FileNode → List (RawText × FileNode)
  | .directory entries => entries
  | _ => []

/-- Why a path leads to nothing, or to nothing that can be read. -/
inductive FileError where
  | notFound
  | notDirectory
  | isDirectory
  | nameTooLong
  | tooManyLinks
  | nulInName
  | denied
deriving DecidableEq, Repr

/-- The wording of a file error. -/
def FileError.message : FileError → String
  | notFound => "No such file or directory (os error 2)"
  | notDirectory => "Not a directory (os error 20)"
  | isDirectory => "Is a directory (os error 21)"
  | nameTooLong => "File name too long (os error 36)"
  | tooManyLinks => "Too many levels of symbolic links (os error 40)"
  | nulInName => "file name contained an unexpected NUL byte"
  | denied => "Permission denied (os error 13)"

/-- The names that lead from the root to a node. -/
abbrev Location := List RawText

/-- The canonical path of a location. -/
def locationPath : Location → Path
  | [] => ⟨"/"⟩
  | place => ⟨⟨place.flatMap fun name => Path.slash :: name.bytes⟩⟩

/-- The node at a location below a node. -/
def FileNode.at? : FileNode → Location → Option FileNode
  | node, [] => some node
  | .directory entries, name :: rest =>
    match entries.lookup name with
    | some node => node.at? rest
    | none => none
  | _, _ :: _ => none

/-- A file system as it stands. -/
structure FileTree where
  root : FileNode
  /-- The absolute path at which relative paths start. -/
  workingDirectory : Path
  /-- Why the path of the working directory cannot be told, if it cannot. -/
  workingDirectoryFault : Option FileError := none

/-- The path of the working directory. -/
def FileTree.currentDirectory (tree : FileTree) : Except FileError Path :=
  match tree.workingDirectoryFault with
  | none => .ok tree.workingDirectory
  | some e => .error e

end Rulebook
