/-
# Following a path

A path is followed piece by piece from the root or from the working directory. Each piece
is looked up in a directory: a dot stays, two dots go to the parent, a name goes to the
entry. A link is replaced by the pieces of its target; at most `linkLimit` links are
followed on one way. Whether a link at the very end counts as itself or as its target is
a parameter.

`advance` goes as far as no link is followed, and `resolveFrom` takes one link at a time.
-/

import Rulebook.FileTree

namespace Rulebook

/-- The pieces of a path, in order. A slash at the end asks for a directory, as a dot does. -/
def Path.pieces (p : Path) : List RawText :=
  let names := p.parts.filter fun piece => piece ≠ ("" : RawText)
  if p.parts.getLast? = some "" then names ++ [dot] else names

/-- The path contains the byte that no path may contain. -/
def Path.hasNul (p : Path) : Bool := p.text.bytes.contains 0

/-- The bytes that a name in a directory may have. -/
def nameLimit : Nat := 255

/-- The links that may be followed on one way. -/
def linkLimit : Nat := 40

/-- How far a way leads without a link. -/
inductive Arrival where
  | place (place : Location)
  /-- A link in a directory, and the pieces behind it. -/
  | link (holder : Location) (target : Path) (rest : List RawText)

/-- Goes from a directory through pieces up to the first link that is to be followed. -/
def FileNode.advance (root : FileNode) (followLast : Bool) :
    Location → List RawText → Except FileError Arrival
  | here, [] => .ok (.place here)
  | here, piece :: rest =>
    match root.at? here with
    | some (.directory entries) =>
      if piece = Path.dot then root.advance followLast here rest
      else if piece = Path.dots then root.advance followLast here.dropLast rest
      else if nameLimit < piece.bytes.length then .error .nameTooLong
      else
        match entries.lookup piece with
        | none => .error .notFound
        | some (.link target) =>
          if rest.isEmpty && !followLast then .ok (.place (here ++ [piece]))
          else .ok (.link here target rest)
        | some _ => root.advance followLast (here ++ [piece]) rest
    | _ => .error .notDirectory

/-- The location to which pieces lead, through a number of links at most. -/
def FileNode.resolveFrom (root : FileNode) (followLast : Bool) :
    Nat → Location → List RawText → Except FileError Location
  | links, here, pieces =>
    match root.advance followLast here pieces with
    | .error e => .error e
    | .ok (.place place) => .ok place
    | .ok (.link holder target rest) =>
      match links with
      | 0 => .error .tooManyLinks
      | left + 1 =>
        let start := if target.isAbsolute then [] else holder
        root.resolveFrom followLast left start (target.pieces ++ rest)

/-- A path that is looked up in one step is shorter than this many bytes. -/
def pathLimit : Nat := 4096

namespace FileTree

/-- The location to which a path leads, however long the path is. -/
def resolve (tree : FileTree) (followLast : Bool) (p : Path) : Except FileError Location :=
  if p.hasNul then .error .nulInName
  else if p.text = "" then .error .notFound
  else tree.root.resolveFrom followLast linkLimit [] (tree.workingDirectory.absolute p).pieces

/-- The path of the same node without dots and links. It is found step by step, so the path
may be of any length. -/
def canonicalize (tree : FileTree) (p : Path) : Except FileError Path :=
  (tree.resolve true p).map locationPath

/-- The location to which a path leads, with the node that lies there. -/
def locate (tree : FileTree) (followLast : Bool) (p : Path) :
    Except FileError (Location × FileNode) :=
  if pathLimit ≤ p.text.bytes.length && !p.hasNul then .error .nameTooLong
  else
    match tree.resolve followLast p with
    | .error e => .error e
    | .ok place =>
      match tree.root.at? place with
      | some node => .ok (place, node)
      | none => .error .notFound

/-- The bytes that are read at a path. -/
def read (tree : FileTree) (p : Path) : Except FileError (List UInt8) :=
  match tree.locate true p with
  | .error e => .error e
  | .ok (_, .file bytes) => .ok bytes
  | .ok (_, .device) => .ok []
  | .ok (_, .link _) => .error .tooManyLinks
  | .ok (_, .directory _) => .error .isDirectory

/-- The contents of the regular file that a path is or leads to. -/
def regular? (tree : FileTree) (p : Path) : Option (List UInt8) :=
  match tree.locate true p with
  | .ok (_, .file bytes) => some bytes
  | _ => none

end FileTree

end Rulebook
