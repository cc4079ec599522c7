/-
# Following names down from a directory

Where a path leads to a directory, the path joined with names of entries leads to what lies
below the directory at these names (`FileTree.locate_descend`), whatever links the path
itself follows, unless it gets too long to be looked up at once. So what a walk meets by
names is found again by the paths that it gives.

Pieces that are followed one after the other are followed from where the first ones lead
(`FileNode.LeadsTo.append`), and a name that is no link takes one step from there. The dot
that stands for a slash at the end of the path is gone in the joined path, but it leads
nowhere else (`FileNode.LeadsTo.of_append_dot`).
-/

import Rulebook.Proofs.FileTree.Walk

namespace Rulebook

namespace FileNode

/-- From a location, pieces lead to another one through so many links at most. -/
inductive LeadsTo (root : FileNode) (followLast : Bool) :
    Nat → Location → List RawText → Location → Prop
  /-- No link is on the way. -/
  | place {links : Nat} {here there : Location} {pieces : List RawText} :
    root.advance followLast here pieces = .ok (.place there) →
      root.LeadsTo followLast links here pieces there
  /-- The way goes on with the pieces of the first link. -/
  | link {links : Nat} {here holder there : Location} {target : Path} {pieces rest : List RawText} :
    root.advance followLast here pieces = .ok (.link holder target rest) →
      root.LeadsTo followLast links (if target.isAbsolute then [] else holder)
        (target.pieces ++ rest) there →
      root.LeadsTo followLast (links + 1) here pieces there

variable {root : FileNode} {here there : Location} {links : Nat} {pieces : List RawText}

/-- The pieces of a path resolve to where they lead. -/
theorem resolveFrom_eq_ok_iff {followLast : Bool} :
    root.resolveFrom followLast links here pieces = .ok there ↔
      root.LeadsTo followLast links here pieces there := by
  constructor
  · intro h
    induction links generalizing here pieces with
    | zero =>
      rw [resolveFrom] at h
      split at h
      · cases h
      · rename_i hplace
        obtain rfl := Except.ok.inj h
        exact .place hplace
      · cases h
    | succ links ih =>
      rw [resolveFrom] at h
      split at h
      · cases h
      · rename_i hplace
        obtain rfl := Except.ok.inj h
        exact .place hplace
      · rename_i hlink
        exact .link hlink (ih h)
  · intro h
    induction h with
    | place hplace =>
      rw [resolveFrom.eq_def]
      simp only [hplace]
    | link hlink _ ih =>
      rw [resolveFrom, hlink]
      exact ih

/-- Pieces behind pieces are followed from where these lead, or behind the link at which
these stop. -/
theorem advance_append (root : FileNode) (here : Location) (pieces more : List RawText) :
    root.advance true here (pieces ++ more) =
      match root.advance true here pieces with
      | .error e => .error e
      | .ok (.place there) => root.advance true there more
      | .ok (.link holder target rest) => .ok (.link holder target (rest ++ more)) := by
  induction pieces generalizing here with
  | nil => rfl
  | cons piece rest ih =>
    rw [List.cons_append, advance, advance]
    rcases root.at? here with _ | bytes | _ | target | entries
    · rfl
    · rfl
    · rfl
    · rfl
    · simp only [ih, Bool.not_true, Bool.and_false, Bool.false_eq_true, if_false]
      split_ifs
      · rfl
      · rfl
      · rfl
      · rcases entries.lookup piece with _ | bytes | _ | target | inner <;> rfl

namespace LeadsTo

/-- Pieces behind a way lead on from its end. -/
theorem append {more : List RawText} {further : Location}
    (h : root.LeadsTo true links here pieces there)
    (hmore : root.advance true there more = .ok (.place further)) :
    root.LeadsTo true links here (pieces ++ more) further := by
  induction h with
  | place hplace =>
    refine .place ?_
    rw [advance_append, hplace]
    exact hmore
  | link hlink _ ih =>
    refine .link (by rw [advance_append, hlink]) ?_
    rw [← List.append_assoc]
    exact ih hmore

/-- A dot at the end leads nowhere else. -/
theorem of_append_dot (h : root.LeadsTo true links here (pieces ++ [Path.dot]) there) :
    root.LeadsTo true links here pieces there := by
  generalize hdotted : pieces ++ [Path.dot] = dotted at h
  induction h generalizing pieces with
  | place hplace =>
    subst hdotted
    rw [advance_append] at hplace
    split at hplace
    · cases hplace
    · rename_i hpieces
      rw [advance] at hplace
      split at hplace
      · obtain rfl := Arrival.place.inj (Except.ok.inj hplace)
        exact .place hpieces
      · cases hplace
    · cases hplace
  | link hlink _ ih =>
    subst hdotted
    rw [advance_append] at hlink
    split at hlink
    · cases hlink
    · rw [advance] at hlink
      split at hlink
      · cases hlink
      · cases hlink
    · rename_i hpieces
      obtain ⟨rfl, rfl, rfl⟩ := Arrival.link.inj (Except.ok.inj hlink)
      exact .link hpieces (ih (List.append_assoc ..))

/-- A name of an entry that is no link leads to the entry. -/
theorem append_name (h : root.LeadsTo true links here pieces there)
    {entries : List (RawText × FileNode)} (hthere : root.at? there = some (.directory entries))
    {name : RawText} (hname : IsEntryName name) {node : FileNode}
    (hnode : entries.lookup name = some node) (hlink : ∀ target, node ≠ .link target) :
    root.LeadsTo true links here (pieces ++ [name]) (there ++ [name]) := by
  refine h.append ?_
  rw [advance, hthere]
  simp only
  rw [if_neg hname.ne_dot, if_neg hname.ne_dots, if_neg (not_lt.2 hname.le_nameLimit), hnode]
  cases node with
  | link target => exact absurd rfl (hlink target)
  | file bytes => rfl
  | device => rfl
  | directory inner => rfl

end LeadsTo

/-- What is met without following a link at the end is met by following it, unless it is one. -/
theorem advance_true_of_false {arrival : Arrival}
    (h : root.advance false here pieces = .ok arrival)
    (hlink : ∀ place, arrival = .place place → ∀ target, root.at? place ≠ some (.link target)) :
    root.advance true here pieces = .ok arrival := by
  induction pieces generalizing here with
  | nil => exact h
  | cons piece rest ih =>
    rw [advance] at h ⊢
    rcases hhere : root.at? here with _ | bytes | _ | target | entries <;> rw [hhere] at h
    · cases h
    · cases h
    · cases h
    · cases h
    · simp only [Bool.not_false, Bool.and_true, Bool.not_true, Bool.and_false,
        Bool.false_eq_true, if_false] at h ⊢
      by_cases hdot : piece = Path.dot
      · rw [if_pos hdot] at h ⊢
        exact ih h
      rw [if_neg hdot] at h ⊢
      by_cases hdots : piece = Path.dots
      · rw [if_pos hdots] at h ⊢
        exact ih h
      rw [if_neg hdots] at h ⊢
      by_cases hlength : nameLimit < piece.bytes.length
      · rw [if_pos hlength] at h
        cases h
      rw [if_neg hlength] at h ⊢
      rcases hlookup : entries.lookup piece with _ | bytes | _ | target | inner <;>
        rw [hlookup] at h
      · cases h
      · exact ih h
      · exact ih h
      · simp only at h ⊢
        split at h
        · -- The way ends here at a link, against the hypothesis.
          obtain rfl := (Except.ok.inj h).symm
          refine absurd ?_ (hlink _ rfl target)
          rw [at?_append, hhere, Option.bind_some, at?_directory_cons, hlookup]
          rfl
        · exact h
      · exact ih h

/-- A way that does not end in a link leads to its end, too, if links are followed. -/
theorem LeadsTo.true_of_false (h : root.LeadsTo false links here pieces there)
    (hlink : ∀ target, root.at? there ≠ some (.link target)) :
    root.LeadsTo true links here pieces there := by
  induction h with
  | place hplace =>
    refine .place (advance_true_of_false hplace ?_)
    rintro _ ⟨⟩
    exact hlink
  | link hmore _ ih =>
    refine .link (advance_true_of_false hmore ?_) (ih hlink)
    rintro _ ⟨⟩

end FileNode

/-! ### The pieces of a joined path -/

namespace Path

/-- A joined path has the pieces of the path before it, without a dot for its last slash, and
those of what is joined. -/
theorem pieces_join_relative {p q : Path} (hp : p.text ≠ "") (hq : q.isAbsolute = false) :
    ∃ front, (p.join q).pieces = front ++ q.pieces ∧
      (p.pieces = front ∨ p.pieces = front ++ [dot]) := by
  obtain ⟨front, hjoin, -, hfront⟩ := parts_join_relative hp hq
  refine ⟨front.filter fun piece => piece ≠ ("" : RawText), ?_, ?_⟩
  · rw [pieces, pieces, hjoin, List.filter_append,
      List.getLast?_append_of_ne_nil _ (parts_ne_nil q)]
    split_ifs
    · exact List.append_assoc ..
    · rfl
  · rcases hfront with hp | hp
    · rw [pieces, hp]
      split_ifs
      · exact .inr rfl
      · exact .inl rfl
    · refine .inr ?_
      rw [pieces, hp]
      simp

/-- The name of an entry is one piece. -/
theorem pieces_of_entryName {name : RawText} (h : IsEntryName name) :
    (⟨name⟩ : Path).pieces = [name] := by
  rw [pieces, parts_of_entryName h]
  simp [h.ne_empty]

/-- A joined path has the pieces of the path before it, without a dot for its last slash, and
the name. -/
theorem pieces_join {p : Path} (hp : p.text ≠ "") {name : RawText} (h : IsEntryName name) :
    ∃ front, (p.join ⟨name⟩).pieces = front ++ [name] ∧
      (p.pieces = front ∨ p.pieces = front ++ [Path.dot]) := by
  rw [← pieces_of_entryName h]
  exact pieces_join_relative hp (isAbsolute_of_entryName h)

/-- A joined path has a NUL if one of its parts has one. -/
theorem hasNul_join_relative {p q : Path} (hp : p.text ≠ "") (hq : q.isAbsolute = false) :
    (p.join q).hasNul = (p.hasNul || q.hasNul) := by
  obtain ⟨front, hjoin, hfront⟩ := bytes_join_relative hp hq
  have hslash : ¬ 0 = slash := by decide
  rw [hasNul, hasNul, hasNul, hjoin]
  rcases hfront with ⟨hp, -⟩ | hp <;> rw [hp] <;> simp [hslash]

/-- A name joined onto a path brings no NUL into it. -/
theorem hasNul_join {p : Path} (hp : p.text ≠ "") {name : RawText} (h : IsEntryName name)
    (hnul : p.hasNul = false) : (p.join ⟨name⟩).hasNul = false := by
  have hname : (⟨name⟩ : Path).hasNul = false := by
    simpa [hasNul] using h.no_nul
  rw [hasNul_join_relative hp (isAbsolute_of_entryName h), hnul, hname, Bool.or_false]

/-- A text in front of a name, with a slash between them. -/
def slashed (text : RawText) : RawText :=
  if text.bytes.getLast?.any (· != slash) then text ++ "/" else text

/-- What stands in front of a text has no say in the slash at its end. -/
theorem slashed_append {front text : RawText} (h : text ≠ "") :
    slashed (front ++ text) = front ++ slashed text := by
  have hbytes : text.bytes ≠ [] := mt RawText.bytes_eq_nil_iff.1 h
  rw [slashed, slashed, RawText.bytes_append, List.getLast?_append_of_ne_nil _ hbytes]
  split_ifs
  · exact RawText.append_assoc ..
  · rfl

/-- A relative path is written behind a slash. -/
theorem join_of_relative {p q : Path} (h : q.isAbsolute = false) :
    p.join q = ⟨slashed p.text ++ q.text⟩ := by
  rw [join, h, if_neg Bool.false_ne_true, slashed]
  split_ifs <;> rfl

/-- Joining three paths, of which only the first may be absolute. -/
theorem join_assoc {p q r : Path} (hempty : q.text ≠ "") (hq : q.isAbsolute = false)
    (hr : r.isAbsolute = false) : p.join (q.join r) = (p.join q).join r := by
  have hqr : (q.join r).isAbsolute = false := by
    have hbytes : q.text.bytes ≠ [] := mt RawText.bytes_eq_nil_iff.1 hempty
    obtain ⟨c, rest, hcons⟩ := List.exists_cons_of_ne_nil hbytes
    rw [isAbsolute, hcons] at hq
    rw [join_of_relative hr, isAbsolute, slashed]
    split_ifs <;> simpa [hcons] using hq
  rw [join_of_relative hqr, join_of_relative hr, join_of_relative hq, join_of_relative hr,
    slashed_append hempty, RawText.append_assoc]

/-- A path that is joined with a relative one is made absolute as the path is. -/
theorem absolute_join_relative {cwd p q : Path} (hp : p.text ≠ "") (hq : q.isAbsolute = false) :
    cwd.absolute (p.join q) = (cwd.absolute p).join q := by
  rw [absolute, absolute, isAbsolute_join_relative hp hq]
  split_ifs with habsolute
  · rfl
  · exact join_assoc hp (by simpa using habsolute) hq

/-- A path that is joined with a name is made absolute as the path is. -/
theorem absolute_join {cwd p : Path} (hp : p.text ≠ "") {name : RawText} (h : IsEntryName name) :
    cwd.absolute (p.join ⟨name⟩) = (cwd.absolute p).join ⟨name⟩ :=
  absolute_join_relative hp (isAbsolute_of_entryName h)

/-- A path that is not empty stays so when it is made absolute. -/
theorem text_absolute_ne_empty {cwd p : Path} (hp : p.text ≠ "") : (cwd.absolute p).text ≠ "" := by
  rw [absolute]
  split_ifs with habsolute
  · exact hp
  · rw [join_of_relative (by simpa using habsolute)]
    exact fun h => hp (RawText.append_eq_empty_iff.1 h).2

/-- The last name is joined onto the path to which the others lead. -/
theorem descend_append_singleton (p : Path) (names : Location) (name : RawText) :
    p.descend (names ++ [name]) = (p.descend names).join ⟨name⟩ := by
  rw [descend, List.foldl_append]
  rfl

end Path

/-! ### What lies at a joined path -/

namespace FileTree

variable {tree : FileTree} {p root : Path} {place there : Location}
  {entries : List (RawText × FileNode)} {node : FileNode}

/-- A path resolves to where its pieces lead from the root, unless it is empty or has a NUL. -/
theorem resolve_eq_ok_iff {followLast : Bool} :
    tree.resolve followLast p = .ok there ↔
      p.hasNul = false ∧ p.text ≠ "" ∧ tree.root.LeadsTo followLast linkLimit []
        (tree.workingDirectory.absolute p).pieces there := by
  rw [resolve]
  split_ifs with hnul hempty
  · simp [hnul]
  · simp [hempty]
  · rw [FileNode.resolveFrom_eq_ok_iff]
    simp [hnul, hempty]

/-- What is not a link is found, too, if links are followed. -/
theorem resolve_true_of_false (h : tree.resolve false p = .ok there)
    (hlink : ∀ target, tree.root.at? there ≠ some (.link target)) :
    tree.resolve true p = .ok there := by
  obtain ⟨hnul, htext, hleads⟩ := resolve_eq_ok_iff.1 h
  exact resolve_eq_ok_iff.2 ⟨hnul, htext, hleads.true_of_false hlink⟩

/-- A name of an entry leads from a directory to the entry. -/
theorem resolve_join (h : tree.resolve true p = .ok there)
    (hthere : tree.root.at? there = some (.directory entries)) {name : RawText}
    (hname : IsEntryName name) (hnode : entries.lookup name = some node)
    (hlink : ∀ target, node ≠ .link target) :
    tree.resolve true (p.join ⟨name⟩) = .ok (there ++ [name]) := by
  obtain ⟨hnul, htext, hleads⟩ := resolve_eq_ok_iff.1 h
  refine resolve_eq_ok_iff.2 ⟨Path.hasNul_join htext hname hnul,
    Path.text_join_ne_empty htext hname, ?_⟩
  have habsolute : (tree.workingDirectory.absolute p).text ≠ "" :=
    Path.text_absolute_ne_empty htext
  obtain ⟨front, hjoin, hfront⟩ := Path.pieces_join habsolute hname
  have hleads : tree.root.LeadsTo true linkLimit [] front there := by
    rcases hfront with hfront | hfront <;> rw [hfront] at hleads
    · exact hleads
    · exact hleads.of_append_dot
  rw [Path.absolute_join htext hname, hjoin]
  exact hleads.append_name hthere hname hnode hlink

/-- Names lead down from a path to what lies at them, unless this is a link. -/
theorem resolve_descend (h : tree.resolve true root = .ok place)
    (hplace : tree.root.at? place = some (.directory entries))
    (hnames : (FileNode.directory entries).WellNamed) {names : Location}
    (hnode : (FileNode.directory entries).at? names = some node)
    (hlink : ∀ target, node ≠ .link target) :
    tree.resolve true (root.descend names) = .ok (place ++ names) := by
  induction names using List.reverseRecOn generalizing node with
  | nil =>
    rw [List.append_nil]
    exact h
  | append_singleton names name ih =>
    obtain ⟨inner, hinner, hlookup⟩ := FileNode.at?_append_singleton_eq_some_iff.1 hnode
    have hthere : tree.root.at? (place ++ names) = some (.directory inner) := by
      rw [FileNode.at?_append, hplace]
      exact hinner
    obtain ⟨hnodup, hentries⟩ := hnames names inner hinner
    have hname := hentries _ ((lookup_eq_some_iff_mem hnodup).1 hlookup)
    rw [Path.descend_append_singleton, ← List.append_assoc]
    exact resolve_join (ih hinner (by simp)) hthere hname hlookup hlink

/-- **What lies below a directory is found at the path that leads there by names**, if this
path is short enough to be looked up. -/
theorem locate_descend (hnames : tree.root.WellNamed)
    (hroot : tree.locate false root = .ok (place, .directory entries)) {names : Location}
    (hnode : (FileNode.directory entries).at? names = some node)
    (hlink : ∀ target, node ≠ .link target)
    (hshort : (root.descend names).text.bytes.length < pathLimit) :
    tree.locate true (root.descend names) = .ok (place ++ names, node) := by
  obtain ⟨hresolve, hplace⟩ := resolve_of_locate hroot
  have hresolve : tree.resolve true root = .ok place :=
    resolve_true_of_false hresolve (by simp [hplace])
  have hat : tree.root.at? (place ++ names) = some node := by
    rw [FileNode.at?_append, hplace]
    exact hnode
  rw [locate, resolve_descend hresolve hplace (hnames.at? hplace) hnode hlink]
  simp [not_le.2 hshort, hat]

end FileTree

end Rulebook
