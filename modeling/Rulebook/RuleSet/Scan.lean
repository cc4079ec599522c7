/-
# Metadata files

Specification §4.2 (Rule Repository Loader).

The metadata files of a directory are the entries that are or link to regular files and
are named `*.json`, without those whose name starts with a dot. A name that is not UTF-8
matches nothing, so its file is passed over. Files are read in the order of their names,
directories in the order of a walk.
-/

import Rulebook.FileTree.Walk
import Rulebook.Rule

namespace Rulebook

/-- A metadata file as it was read. -/
structure ScannedFile where
  /-- The directory, relative to which body files are named. -/
  directory : Path
  path : Path
  parsed : Json.Decoded Rule

/-- The name of a metadata file. -/
def isMetadataName (name : RawText) : Bool :=
  match name.text? with
  | none => false
  | some text =>
    text.toList.head? != some '.' && Rule.metadataSuffix.toList.isSuffixOf text.toList

namespace FileTree

/-- The names and contents of the metadata files of a directory, sorted by name. -/
def candidates (tree : FileTree) (d : Directory) : List (RawText × List UInt8) :=
  let found := d.entries.filterMap fun (name, _) =>
    if isMetadataName name then (tree.regular? (d.path.join ⟨name⟩)).map (name, ·) else none
  found.mergeSort fun a b => a.1 ≤ b.1

/-- The metadata files of a directory. -/
def scanDirectory (tree : FileTree) (d : Directory) : List ScannedFile :=
  (tree.candidates d).map fun (name, bytes) =>
    { directory := d.path, path := d.path.join ⟨name⟩, parsed := Rule.ofBytes bytes }

/-- The metadata files of several directories. -/
def scan (tree : FileTree) (ds : List Directory) : List ScannedFile :=
  ds.flatMap tree.scanDirectory

end FileTree

end Rulebook
