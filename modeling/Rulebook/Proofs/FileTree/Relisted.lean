/-
# The order of directory entries

The entries of a directory come in no particular order, so one file system has many trees:
they have the same nodes at the same locations, and differ only in how directories list
them (`FileNode.Relists`). Nothing that is looked up by a path differs
(`FileTree.Relists.resolve_eq`, `read_eq`): a step along a path only asks what lies at a
location, and of a directory only that it is one (`FileNode.advance_cons`).
-/

import Rulebook.Proofs.FileTree.Walk

namespace Rulebook

namespace FileNode

/-- A node without what lies below it. -/
def outline : FileNode → FileNode
  | .file bytes => .file bytes
  | .device => .device
  | .link target => .link target
  | .directory _ => .directory []

/-- The same nodes lie at the same locations, in whatever order directories list them. -/
def Relists (a b : FileNode) : Prop :=
  ∀ place, (a.at? place).map outline = (b.at? place).map outline

/-- A node is a listing of itself. -/
theorem Relists.refl (node : FileNode) : node.Relists node := fun _ => rfl

/-- What lies at a location in two listings is listed anew, too. -/
theorem Relists.at? {a b a' b' : FileNode} (h : a.Relists b) {place : Location}
    (ha : a.at? place = some a') (hb : b.at? place = some b') : a'.Relists b' := by
  intro names
  have hnames := h (place ++ names)
  rwa [at?_append, at?_append, ha, hb] at hnames

/-- Directories with the same entries under the same names, up to their listing. -/
theorem Relists.directory {entries entries' : List (RawText × FileNode)}
    (h : ∀ name, Option.Rel Relists (entries.lookup name) (entries'.lookup name)) :
    (FileNode.directory entries).Relists (.directory entries') := by
  intro place
  cases place with
  | nil => rfl
  | cons name rest =>
    rw [at?_directory_cons, at?_directory_cons]
    have hname := h name
    generalize entries.lookup name = found, entries'.lookup name = found' at hname ⊢
    cases hname with
    | some hnode => exact hnode rest
    | none => rfl

/-- **The order in which a directory lists its entries is no part of the file system.** -/
theorem relists_of_perm {entries entries' : List (RawText × FileNode)}
    (hnodup : (entries.map (·.1)).Nodup) (h : entries.Perm entries') :
    (FileNode.directory entries).Relists (.directory entries') := by
  refine Relists.directory fun name => ?_
  have hsame : entries.lookup name = entries'.lookup name := by
    refine Option.ext fun node => ?_
    rw [lookup_eq_some_iff_mem hnodup, lookup_eq_some_iff_mem (((h.map _).nodup_iff).1 hnodup),
      h.mem_iff]
  rw [hsame]
  rcases entries'.lookup name with _ | node
  · exact .none
  · exact .some (Relists.refl node)

/-- **What a step along a path asks for**: what lies here and at the next place, without what
lies below. -/
theorem advance_cons (root : FileNode) (followLast : Bool) (here : Location) (piece : RawText)
    (rest : List RawText) :
    root.advance followLast here (piece :: rest) =
      match (root.at? here).map outline with
      | some (.directory _) =>
        if piece = Path.dot then root.advance followLast here rest
        else if piece = Path.dots then root.advance followLast here.dropLast rest
        else if nameLimit < piece.bytes.length then .error .nameTooLong
        else
          match (root.at? (here ++ [piece])).map outline with
          | none => .error .notFound
          | some (.link target) =>
            if rest.isEmpty && !followLast then .ok (.place (here ++ [piece]))
            else .ok (.link here target rest)
          | some _ => root.advance followLast (here ++ [piece]) rest
      | _ => .error .notDirectory := by
  rw [advance]
  rcases hhere : root.at? here with _ | bytes | _ | target | entries
  · rfl
  · rfl
  · rfl
  · rfl
  · simp only [Option.map_some, outline]
    rw [at?_append, hhere, Option.bind_some, at?_directory_cons]
    rcases entries.lookup piece with _ | bytes | _ | target | inner <;> rfl

variable {a b : FileNode}

/-- A way goes on to the same place in both listings. -/
theorem Relists.advance_eq (h : a.Relists b) (followLast : Bool) (here : Location)
    (pieces : List RawText) :
    a.advance followLast here pieces = b.advance followLast here pieces := by
  induction pieces generalizing here with
  | nil => rfl
  | cons piece rest ih => rw [advance_cons, advance_cons, h, h, ih, ih, ih]

/-- Pieces lead to the same place in both listings. -/
theorem Relists.resolveFrom_eq (h : a.Relists b) (followLast : Bool) (links : Nat)
    (here : Location) (pieces : List RawText) :
    a.resolveFrom followLast links here pieces = b.resolveFrom followLast links here pieces := by
  induction links generalizing here pieces with
  | zero => rw [resolveFrom, resolveFrom, h.advance_eq]
  | succ links ih =>
    rw [resolveFrom, resolveFrom, h.advance_eq]
    simp only [ih]

end FileNode

namespace FileTree

/-- One file system, listed in two ways. -/
structure Relists (a b : FileTree) : Prop where
  root : a.root.Relists b.root
  workingDirectory : a.workingDirectory = b.workingDirectory

namespace Relists

variable {a b : FileTree}

/-- A path leads to the same place in both listings. -/
theorem resolve_eq (h : a.Relists b) (followLast : Bool) (p : Path) :
    a.resolve followLast p = b.resolve followLast p := by
  rw [resolve, resolve, h.root.resolveFrom_eq, h.workingDirectory]

/-- A path has the same canonical form in both listings. -/
theorem canonicalize_eq (h : a.Relists b) (p : Path) : a.canonicalize p = b.canonicalize p := by
  rw [canonicalize, canonicalize, h.resolve_eq]

/-- A path leads to the same location, and what lies there differs below it at most. -/
theorem locate_eq (h : a.Relists b) (followLast : Bool) (p : Path) :
    (a.locate followLast p).map (Prod.map id FileNode.outline) =
      (b.locate followLast p).map (Prod.map id FileNode.outline) := by
  rw [locate, locate, h.resolve_eq]
  split
  · rfl
  · rcases b.resolve followLast p with e | place
    · rfl
    · have hplace := h.root place
      rcases ha : a.root.at? place with _ | node <;>
        rcases hb : b.root.at? place with _ | node' <;> rw [ha, hb] at hplace
      · simp only [ha, hb]
      · cases hplace
      · cases hplace
      · simp only [ha, hb, Except.map, Prod.map, Option.some.inj hplace]

/-- A path to a directory leads to the same directory, listed in another way. -/
theorem locate_directory (h : a.Relists b) {followLast : Bool} {p : Path} {place : Location}
    {entries : List (RawText × FileNode)}
    (ha : a.locate followLast p = .ok (place, .directory entries)) :
    ∃ entries', b.locate followLast p = .ok (place, .directory entries') ∧
      (FileNode.directory entries).Relists (.directory entries') := by
  have hlocate := h.locate_eq followLast p
  rw [ha] at hlocate
  rcases hb : b.locate followLast p with e | ⟨place', node⟩ <;> rw [hb] at hlocate
  · cases hlocate
  · cases node <;> cases hlocate
    exact ⟨_, rfl, h.root.at? (resolve_of_locate ha).2 (resolve_of_locate hb).2⟩

/-- The same bytes are read in both listings. -/
theorem read_eq (h : a.Relists b) (p : Path) : a.read p = b.read p := by
  have hlocate := h.locate_eq true p
  rw [read, read]
  revert hlocate
  rcases a.locate true p with e | ⟨place, node⟩ <;>
    rcases b.locate true p with e' | ⟨place', node'⟩ <;> intro hlocate
  · rw [Except.error.inj hlocate]
  · cases hlocate
  · cases hlocate
  · cases node <;> cases node' <;> cases hlocate <;> rfl

/-- The same regular files are found in both listings. -/
theorem regular?_eq (h : a.Relists b) (p : Path) : a.regular? p = b.regular? p := by
  have hlocate := h.locate_eq true p
  rw [regular?, regular?]
  revert hlocate
  rcases a.locate true p with e | ⟨place, node⟩ <;>
    rcases b.locate true p with e' | ⟨place', node'⟩ <;> intro hlocate
  · rfl
  · cases hlocate
  · cases hlocate
  · cases node <;> cases node' <;> cases hlocate <;> rfl

end Relists

end FileTree

end Rulebook
