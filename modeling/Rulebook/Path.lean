/-
# Paths

A path is a raw text in which slashes separate components. Joining and comparing look at
different things: `join` works on the text and keeps `.`, `..` and doubled slashes,
whereas order and containment (`below`) compare components, so that `/srv//a` and
`/srv/./a` are the same place but different texts.

| path | components |
| --- | --- |
| `/srv//a/.` | root, `srv`, `a` |
| `a/../b` | `a`, parent, `b` |
| `./a` | here, `a` |
-/

import Rulebook.Json.Basic
import Rulebook.Text.Raw
import Rulebook.Text.Split

namespace Rulebook

/-- A path as it is written. -/
@[ext]
structure Path where
  text : RawText
deriving DecidableEq, Repr

namespace Path

/-- The path that a text spells. -/
def ofString (text : String) : Path := ⟨text⟩

/-- The byte that separates components. -/
abbrev slash : UInt8 := 0x2F

/-- The piece that stays where it is. -/
def dot : RawText := "."

/-- The piece that leads to the parent. -/
def dots : RawText := ".."

/-- The pieces of a path between its slashes, empty ones included. -/
def parts (p : Path) : List RawText := (Text.splitAt slash p.text.bytes).map RawText.mk

/-- The written form. A path that is not UTF-8 has none. -/
def encode (p : Path) : Option Json := p.text.text?.map .string

/-- A part of a path. -/
inductive Component where
  | root
  | here
  | parent
  | name (text : RawText)
deriving DecidableEq, Repr

/-- A piece between slashes as a component; empty pieces and single dots are none. -/
def componentOf (piece : RawText) : Option Component :=
  if piece = "" ∨ piece = dot then none
  else if piece = dots then some .parent
  else some (.name piece)

/-- A path that starts at the root. -/
def isAbsolute (p : Path) : Bool := p.text.bytes.head? == some slash

/-- The components of a path. A single dot counts only at the start of a relative path. -/
def components (p : Path) : List Component :=
  let lead :=
    if p.isAbsolute then [.root]
    else if p.parts.head? = some dot then [.here]
    else []
  lead ++ p.parts.filterMap componentOf

/-- A path after a path: it replaces the path if it is absolute, and is otherwise written
behind it, with a slash between them if the path does not end in one. -/
def join (p q : Path) : Path :=
  if q.isAbsolute then q
  else if p.text.bytes.getLast?.any (· != slash) then ⟨p.text ++ "/" ++ q.text⟩
  else ⟨p.text ++ q.text⟩

/-- A path made absolute in a working directory. -/
def absolute (cwd p : Path) : Path := if p.isAbsolute then p else cwd.join p

/-- The components of `base` are the first components of `p`. -/
def below (base p : Path) : Bool := base.components.isPrefixOf p.components

/-- The place of a component in the order of components. -/
def Component.rank : Component → Nat
  | root => 0
  | here => 1
  | parent => 2
  | name _ => 3

/-- The order of components: by kind, names among themselves by their bytes. -/
def Component.before : Component → Component → Bool
  | name a, name b => a < b
  | a, b => a.rank < b.rank

/-- The order of paths: by their components, from the front. -/
def componentsLe : List Component → List Component → Bool
  | [], _ => true
  | _ :: _, [] => false
  | a :: as, b :: bs =>
    if a.before b then true else if b.before a then false else componentsLe as bs

/-- The order of paths. -/
def le (p q : Path) : Bool := componentsLe p.components q.components

end Path

end Rulebook
