/-
# The canonical path of a directory

The canonical path of a directory is written with the names that lead to it from the root, and
no link is on its way (`FileNode.leadsTo_locationPath`). What is joined to any other path to
the directory leads where it leads from there (`FileTree.resolve_join_eq`): the links on the
way to the directory are forgotten once it is reached, except that they are counted. So two
paths to one directory come apart only where one of them takes too many links, and a way that
gets along with some links goes the same with more (`FileNode.resolveFrom_succ`).

A path to a directory either ends in a link or leads there without following one at its end
(`FileTree.locate_false_cases`). The canonical path never ends in a link
(`FileTree.locate_locationPath`).
-/

import Rulebook.Proofs.FileTree.Descend

namespace Rulebook

namespace FileNode

variable {root : FileNode} {here there : Location} {links : Nat} {pieces more : List RawText}

/-! ### The number of links -/

/-- **A way that gets along with some links goes the same with one more.** -/
theorem resolveFrom_succ (h : root.resolveFrom true links here pieces ≠ .error .tooManyLinks) :
    root.resolveFrom true (links + 1) here pieces = root.resolveFrom true links here pieces := by
  induction links generalizing here pieces with
  | zero =>
    rw [resolveFrom] at h ⊢
    rw [resolveFrom]
    rcases hadvance : root.advance true here pieces with e | place | ⟨holder, target, rest⟩
    · rfl
    · rfl
    · rw [hadvance] at h
      exact absurd rfl h
  | succ links ih =>
    rw [resolveFrom] at h ⊢
    rw [resolveFrom]
    rcases hadvance : root.advance true here pieces with e | place | ⟨holder, target, rest⟩
    · rfl
    · rfl
    · rw [hadvance] at h
      exact ih h

/-- Pieces behind a way without links are followed from where it leads. -/
theorem resolveFrom_append_of_advance (h : root.advance true here pieces = .ok (.place there))
    (links : Nat) (more : List RawText) :
    root.resolveFrom true links here (pieces ++ more) =
      root.resolveFrom true links there more := by
  rw [resolveFrom.eq_def root true links here, resolveFrom.eq_def root true links there]
  simp only [advance_append, h]

/-- **Pieces behind a way are followed from where it leads**, as long as the links suffice. -/
theorem resolveFrom_append (h : root.LeadsTo true links here pieces there)
    (hmore : root.resolveFrom true links here (pieces ++ more) ≠ .error .tooManyLinks) :
    root.resolveFrom true links here (pieces ++ more) =
      root.resolveFrom true links there more := by
  induction h with
  | place hplace => exact resolveFrom_append_of_advance hplace _ more
  | @link links here holder there target pieces rest hlink _ ih =>
    have hfollow : root.resolveFrom true (links + 1) here (pieces ++ more) =
        root.resolveFrom true links (if target.isAbsolute then [] else holder)
          (target.pieces ++ rest ++ more) := by
      rw [resolveFrom, advance_append, hlink]
      simp only [List.append_assoc]
    rw [hfollow] at hmore ⊢
    have hrest := ih hmore
    rw [hrest] at hmore ⊢
    exact (resolveFrom_succ hmore).symm

/-! ### Links at the end of a way -/

/-- What is met by following links to the end is met without following the last, unless the
way ends in a link. -/
theorem advance_false_cases {arrival : Arrival}
    (h : root.advance true here pieces = .ok arrival) :
    root.advance false here pieces = .ok arrival ∨
      ∃ place target, root.advance false here pieces = .ok (.place place) ∧
        root.at? place = some (.link target) ∧ ∀ other, arrival ≠ .place other := by
  induction pieces generalizing here with
  | nil => exact .inl h
  | cons piece rest ih =>
    rw [advance] at h ⊢
    rcases hhere : root.at? here with _ | bytes | _ | target | entries <;> rw [hhere] at h
    · cases h
    · cases h
    · cases h
    · cases h
    · simp only [Bool.not_true, Bool.and_false, Bool.false_eq_true, if_false, Bool.not_false,
        Bool.and_true] at h ⊢
      by_cases hdot : piece = Path.dot
      · rw [if_pos hdot] at h ⊢
        exact ih h
      rw [if_neg hdot] at h ⊢
      by_cases hdots : piece = Path.dots
      · rw [if_pos hdots] at h ⊢
        exact ih h
      rw [if_neg hdots] at h ⊢
      by_cases hlength : nameLimit < piece.bytes.length
      · rw [if_pos hlength] at h
        cases h
      rw [if_neg hlength] at h ⊢
      rcases hlookup : entries.lookup piece with _ | bytes | _ | target | inner <;>
        rw [hlookup] at h
      · cases h
      · exact ih h
      · exact ih h
      · -- A link that is followed, unless nothing stands behind it.
        obtain rfl := Except.ok.inj h
        simp only
        split
        · refine .inr ⟨_, target, rfl, ?_, fun other => by simp⟩
          rw [at?_append, hhere, Option.bind_some, at?_directory_cons, hlookup]
          rfl
        · exact .inl rfl
      · exact ih h

/-- A way leads to the same place when a link at its end is not followed, unless there is
one. -/
theorem LeadsTo.false_cases (h : root.LeadsTo true links here pieces there) :
    root.LeadsTo false links here pieces there ∨
      ∃ place target, root.LeadsTo false links here pieces place ∧
        root.at? place = some (.link target) := by
  induction h with
  | place hplace =>
    rcases advance_false_cases hplace with hfalse | ⟨_, _, -, -, hnot⟩
    · exact .inl (.place hfalse)
    · exact absurd rfl (hnot _)
  | link hlink _ ih =>
    rcases advance_false_cases hlink with hfalse | ⟨place, target, hfalse, hat, -⟩
    · rcases ih with hleads | ⟨place, target, hleads, hat⟩
      · exact .inl (.link hfalse hleads)
      · exact .inr ⟨place, target, .link hfalse hleads, hat⟩
    · exact .inr ⟨place, target, .place hfalse, hat⟩

end FileNode

/-! ### Canonical paths -/

namespace Path

/-- A name gets a slash at its end. -/
theorem slashed_of_entryName {name : RawText} (h : IsEntryName name) :
    slashed name = name ++ "/" := by
  rw [slashed, if_pos]
  rw [List.getLast?_eq_some_getLast h.bytes_ne_nil, Option.any_some, bne_iff_ne]
  exact fun hslash => h.no_slash (hslash ▸ List.getLast_mem h.bytes_ne_nil)

/-- The canonical path of what is not the root has a slash in front of every name. -/
theorem text_locationPath_append_singleton (place : Location) (name : RawText) :
    (locationPath (place ++ [name])).text.bytes =
      (place.flatMap fun name => slash :: name.bytes) ++ slash :: name.bytes := by
  rw [locationPath.eq_2 _ (by simp), List.flatMap_append]
  simp

/-- A name is written behind a canonical path. -/
theorem join_locationPath {place : Location} (hplace : ∀ name ∈ place, IsEntryName name)
    {name : RawText} (h : IsEntryName name) :
    (locationPath place).join ⟨name⟩ = locationPath (place ++ [name]) := by
  rw [join_of_relative (isAbsolute_of_entryName h)]
  refine Path.ext (RawText.ext ?_)
  rw [text_locationPath_append_singleton]
  rcases List.eq_nil_or_concat place with rfl | ⟨front, last, rfl⟩
  · rfl
  · rw [List.concat_eq_append] at hplace ⊢
    have hlast : IsEntryName last := hplace last (by simp)
    -- The text ends in the last name, so it does not end in a slash.
    have hbefore : (locationPath (front ++ [last])).text =
        ⟨(front.flatMap fun name => slash :: name.bytes) ++ [slash]⟩ ++ last := by
      refine RawText.ext ?_
      rw [text_locationPath_append_singleton, RawText.bytes_append, List.append_assoc]
      rfl
    rw [hbefore, slashed_append hlast.ne_empty, slashed_of_entryName hlast]
    simp [show (RawText.ofString "/").bytes = [slash] from rfl]

/-- Names that lead down from a canonical path lead to a canonical path. -/
theorem descend_locationPath {place names : Location} (hplace : ∀ name ∈ place, IsEntryName name)
    (hnames : ∀ name ∈ names, IsEntryName name) :
    (locationPath place).descend names = locationPath (place ++ names) := by
  induction names generalizing place with
  | nil => rw [List.append_nil]; rfl
  | cons name rest ih =>
    rw [List.forall_mem_cons] at hnames
    show ((locationPath place).join ⟨name⟩).descend rest = _
    rw [join_locationPath hplace hnames.1, ih (List.forall_mem_append.2
      ⟨hplace, List.forall_mem_singleton.2 hnames.1⟩) hnames.2, List.append_assoc]
    rfl

/-- A canonical path is absolute. -/
theorem isAbsolute_locationPath (place : Location) : (locationPath place).isAbsolute = true := by
  rcases place with _ | ⟨name, rest⟩ <;> rfl

/-- A canonical path is the same from every directory. -/
theorem absolute_locationPath (cwd : Path) (place : Location) :
    cwd.absolute (locationPath place) = locationPath place :=
  absolute_of_isAbsolute (isAbsolute_locationPath place) cwd

/-- A canonical path is not empty. -/
theorem text_locationPath_ne_empty (place : Location) : (locationPath place).text ≠ "" :=
  text_ne_empty_of_isAbsolute (isAbsolute_locationPath place)

/-- A canonical path of entries has no NUL. -/
theorem hasNul_locationPath {place : Location} (hplace : ∀ name ∈ place, IsEntryName name) :
    (locationPath place).hasNul = false := by
  induction place using List.reverseRecOn with
  | nil => rfl
  | append_singleton place name ih =>
    rw [List.forall_mem_append, List.forall_mem_singleton] at hplace
    rw [← join_locationPath hplace.1 hplace.2]
    exact hasNul_join (text_locationPath_ne_empty place) hplace.2 (ih hplace.1)

end Path

namespace FileNode

variable {root : FileNode}

/-- **The canonical path of a directory leads there without a link.** -/
theorem leadsTo_locationPath (hnames : root.WellNamed) {place : Location}
    {entries : List (RawText × FileNode)} (h : root.at? place = some (.directory entries)) :
    root.LeadsTo true 0 [] (locationPath place).pieces place := by
  induction place using List.reverseRecOn generalizing entries with
  | nil =>
    have hpieces : (locationPath []).pieces = [Path.dot] := by decide
    refine .place ?_
    rw [hpieces, advance, h]
    rfl
  | append_singleton place name ih =>
    have hentry := hnames.isEntryName h
    rw [List.forall_mem_append, List.forall_mem_singleton] at hentry
    obtain ⟨holder, hholder, hlookup⟩ := at?_append_singleton_eq_some_iff.1 h
    obtain ⟨front, hjoin, hfront⟩ :=
      Path.pieces_join (Path.text_locationPath_ne_empty place) hentry.2
    have hleads : root.LeadsTo true 0 [] front place := by
      have hleads := ih hholder
      rcases hfront with hfront | hfront <;> rw [hfront] at hleads
      · exact hleads
      · exact hleads.of_append_dot
    rw [← Path.join_locationPath hentry.1 hentry.2, hjoin]
    exact hleads.append_name hholder hentry.2 hlookup (by simp)

/-- A way that may take no link takes none. -/
theorem LeadsTo.advance_eq {followLast : Bool} {here there : Location} {pieces : List RawText}
    (h : root.LeadsTo followLast 0 here pieces there) :
    root.advance followLast here pieces = .ok (.place there) := by
  cases h with
  | place hplace => exact hplace

end FileNode

namespace FileTree

variable {tree : FileTree} {p q : Path} {place : Location} {entries : List (RawText × FileNode)}

/-- Where a path leads to which a relative one is joined: the pieces of the first are followed
without a dot for its last slash, and then those of the second. -/
theorem exists_resolve_join_eq (tree : FileTree) (hp : p.text ≠ "") (hnul : p.hasNul = false)
    (hq : q.isAbsolute = false) :
    ∃ front, ((tree.workingDirectory.absolute p).pieces = front ∨
        (tree.workingDirectory.absolute p).pieces = front ++ [Path.dot]) ∧
      tree.resolve true (p.join q) =
        if q.hasNul then .error .nulInName
        else tree.root.resolveFrom true linkLimit [] (front ++ q.pieces) := by
  have habsolute : (tree.workingDirectory.absolute p).text ≠ "" := Path.text_absolute_ne_empty hp
  obtain ⟨front, hjoin, hfront⟩ := Path.pieces_join_relative habsolute hq
  refine ⟨front, hfront, ?_⟩
  rw [resolve, Path.hasNul_join_relative hp hq, hnul, Bool.false_or,
    if_neg (Path.text_join_relative_ne_empty hp hq), Path.absolute_join_relative hp hq, hjoin]

/-- **What is joined to a path to a directory leads where it leads from the canonical path of
the directory**, unless it takes too many links. -/
theorem resolve_join_eq (hnames : tree.root.WellNamed) (h : tree.resolve true p = .ok place)
    (hplace : tree.root.at? place = some (.directory entries))
    (hlinks : tree.resolve true (p.join q) ≠ .error .tooManyLinks) :
    tree.resolve true (p.join q) = tree.resolve true ((locationPath place).join q) := by
  rcases hq : q.isAbsolute with _ | _
  · obtain ⟨hnul, htext, hleads⟩ := resolve_eq_ok_iff.1 h
    have hentry := hnames.isEntryName hplace
    have hdirect := FileNode.leadsTo_locationPath hnames hplace
    rw [← Path.absolute_locationPath tree.workingDirectory place] at hdirect
    obtain ⟨front, hfront, hresolve⟩ := exists_resolve_join_eq tree htext hnul hq
    obtain ⟨front', hfront', hresolve'⟩ := exists_resolve_join_eq tree
      (Path.text_locationPath_ne_empty place) (Path.hasNul_locationPath hentry) hq
    have hleads : tree.root.LeadsTo true linkLimit [] front place := by
      rcases hfront with hfront | hfront <;> rw [hfront] at hleads
      · exact hleads
      · exact hleads.of_append_dot
    have hdirect : tree.root.LeadsTo true 0 [] front' place := by
      rcases hfront' with hfront | hfront <;> rw [hfront] at hdirect
      · exact hdirect
      · exact hdirect.of_append_dot
    rw [hresolve] at hlinks ⊢
    rw [hresolve']
    rcases hqnul : q.hasNul with _ | _
    · rw [hqnul, if_neg Bool.false_ne_true] at hlinks
      rw [if_neg Bool.false_ne_true, if_neg Bool.false_ne_true,
        FileNode.resolveFrom_append hleads hlinks,
        FileNode.resolveFrom_append_of_advance hdirect.advance_eq]
    · rfl
  · simp only [Path.join, hq, if_true]

/-- What lies at a path is what lies at the location to which it leads, if the path is short
enough to be looked up. -/
theorem locate_eq_ok_iff {followLast : Bool} {node : FileNode} :
    tree.locate followLast p = .ok (place, node) ↔
      p.text.bytes.length < pathLimit ∧ tree.resolve followLast p = .ok place ∧
        tree.root.at? place = some node := by
  constructor
  · intro h
    obtain ⟨hresolve, hat⟩ := resolve_of_locate h
    refine ⟨?_, hresolve, hat⟩
    by_contra hlong
    rw [locate, (resolve_eq_ok_iff.1 hresolve).1, if_pos (by simpa using hlong)] at h
    cases h
  · rintro ⟨hshort, hresolve, hat⟩
    rw [locate, if_neg (by simp [hshort]), hresolve]
    simp only [hat]

/-- A path to a node either ends in a link or leads there in any case. -/
theorem locate_false_cases {node : FileNode} (h : tree.locate true p = .ok (place, node)) :
    tree.locate false p = .ok (place, node) ∨
      ∃ holder target, tree.locate false p = .ok (holder, .link target) := by
  obtain ⟨hshort, hresolve, hat⟩ := locate_eq_ok_iff.1 h
  obtain ⟨hnul, htext, hleads⟩ := resolve_eq_ok_iff.1 hresolve
  rcases hleads.false_cases with hfalse | ⟨holder, target, hfalse, hlink⟩
  · exact .inl (locate_eq_ok_iff.2 ⟨hshort, resolve_eq_ok_iff.2 ⟨hnul, htext, hfalse⟩, hat⟩)
  · exact .inr ⟨holder, target,
      locate_eq_ok_iff.2 ⟨hshort, resolve_eq_ok_iff.2 ⟨hnul, htext, hfalse⟩, hlink⟩⟩

/-- **The canonical path of a directory leads there, and does not end in a link.** -/
theorem locate_locationPath (hnames : tree.root.WellNamed)
    (hplace : tree.root.at? place = some (.directory entries))
    (hshort : (locationPath place).text.bytes.length < pathLimit) :
    tree.locate false (locationPath place) = .ok (place, .directory entries) := by
  have hnul := Path.hasNul_locationPath (hnames.isEntryName hplace)
  have htext := Path.text_locationPath_ne_empty place
  have hleads : tree.root.LeadsTo false linkLimit [] (locationPath place).pieces place := by
    have hadvance := (FileNode.leadsTo_locationPath hnames hplace).advance_eq
    rcases FileNode.advance_false_cases hadvance with hfalse | ⟨_, _, -, -, hnot⟩
    · exact .place hfalse
    · exact absurd rfl (hnot place)
  rw [← Path.absolute_locationPath tree.workingDirectory place] at hleads
  exact locate_eq_ok_iff.2 ⟨hshort, resolve_eq_ok_iff.2 ⟨hnul, htext, hleads⟩, hplace⟩

end FileTree

end Rulebook
