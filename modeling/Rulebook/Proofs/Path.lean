/-
# The order of paths

Paths are compared by their components, and a name that can stand in a directory adds one
component to a path that it is joined to (`Path.components_join`). So paths that lead down
from one path by names are ordered as the lists of these names are (`Path.le_descend_iff`):
name by name from the front. This is not the order of their texts, since a name may go on
with a character that comes before the slash, as `a-b` does and `a/b` does not.

In that order a list comes before those that it starts (`lt_of_isPrefix_of_ne`), and whatever
lies between two lists with one start has that start (`isPrefix_of_between`), which is why
a directory tree is gone through subtree by subtree.
-/

import Mathlib
import Rulebook.FileTree.Resolve
import Rulebook.Proofs.Text.Raw
import Rulebook.Proofs.Text.Split

namespace Rulebook

/-- What the name of an entry of a directory can be. -/
structure IsEntryName (name : RawText) : Prop where
  ne_empty : name ≠ ""
  ne_dot : name ≠ Path.dot
  ne_dots : name ≠ Path.dots
  no_slash : Path.slash ∉ name.bytes
  no_nul : 0 ∉ name.bytes
  le_nameLimit : name.bytes.length ≤ nameLimit

instance (name : RawText) : Decidable (IsEntryName name) :=
  decidable_of_iff (name ≠ "" ∧ name ≠ Path.dot ∧ name ≠ Path.dots ∧ Path.slash ∉ name.bytes ∧
      0 ∉ name.bytes ∧ name.bytes.length ≤ nameLimit)
    ⟨fun ⟨h₁, h₂, h₃, h₄, h₅, h₆⟩ => ⟨h₁, h₂, h₃, h₄, h₅, h₆⟩,
      fun ⟨h₁, h₂, h₃, h₄, h₅, h₆⟩ => ⟨h₁, h₂, h₃, h₄, h₅, h₆⟩⟩

/-- The name of an entry has a byte. -/
theorem IsEntryName.bytes_ne_nil {name : RawText} (h : IsEntryName name) : name.bytes ≠ [] :=
  mt RawText.bytes_eq_nil_iff.1 h.ne_empty

namespace Path

/-- The name of an entry is a component by itself. -/
theorem componentOf_entryName {name : RawText} (h : IsEntryName name) :
    componentOf name = some (.name name) := by
  rw [componentOf, if_neg (not_or.2 ⟨h.ne_empty, h.ne_dot⟩), if_neg h.ne_dots]

/-- The name of an entry is a relative path. -/
theorem isAbsolute_of_entryName {name : RawText} (h : IsEntryName name) :
    (⟨name⟩ : Path).isAbsolute = false := by
  rw [isAbsolute, beq_eq_false_iff_ne]
  intro he
  obtain ⟨rest, hrest⟩ := List.head?_eq_some_iff.1 he
  exact h.no_slash (hrest ▸ List.mem_cons_self ..)

/-- A joined path is written with one slash before what is joined; the path in front of it
ends before the slash or with it. -/
theorem bytes_join_relative {p q : Path} (hp : p.text ≠ "") (hq : q.isAbsolute = false) :
    ∃ front, (p.join q).text.bytes = front ++ slash :: q.text.bytes ∧
      (p.text.bytes = front ∧ front ≠ [] ∨ p.text.bytes = front ++ [slash]) := by
  have hbytes : p.text.bytes ≠ [] := mt RawText.bytes_eq_nil_iff.1 hp
  rw [join, hq, if_neg Bool.false_ne_true]
  obtain ⟨front, last, hlast⟩ := (List.eq_nil_or_concat p.text.bytes).resolve_left hbytes
  rw [List.concat_eq_append] at hlast
  by_cases hslash : last = slash
  · subst hslash
    refine ⟨front, ?_, .inr hlast⟩
    rw [if_neg (by rw [hlast]; simp), RawText.bytes_append, hlast, List.append_assoc]
    rfl
  · refine ⟨p.text.bytes, ?_, .inl ⟨rfl, hbytes⟩⟩
    rw [if_pos (by rw [hlast]; simpa using hslash), RawText.bytes_append, RawText.bytes_append,
      List.append_assoc]
    rfl

/-- The parts of a path that is written with a slash are those before and behind it. -/
theorem parts_of_bytes_eq {p : Path} {front behind : List UInt8}
    (h : p.text.bytes = front ++ slash :: behind) :
    p.parts = parts ⟨⟨front⟩⟩ ++ parts ⟨⟨behind⟩⟩ := by
  rw [parts, h, Text.splitAt_append_cons, List.map_append]
  rfl

/-- A path has a piece, be it empty. -/
theorem parts_ne_nil (p : Path) : p.parts ≠ [] :=
  mt List.map_eq_nil_iff.1 (Text.splitAt_ne_nil slash p.text.bytes)

/-- The parts of a joined path are those of the path in front, without an empty one behind a
slash at its end, and those of what is joined. -/
theorem parts_join_relative {p q : Path} (hp : p.text ≠ "") (hq : q.isAbsolute = false) :
    ∃ front, (p.join q).parts = front ++ q.parts ∧ front ≠ [] ∧
      (p.parts = front ∨ p.parts = front ++ [("" : RawText)]) := by
  obtain ⟨front, hjoin, hfront⟩ := bytes_join_relative hp hq
  refine ⟨parts ⟨⟨front⟩⟩, parts_of_bytes_eq hjoin, parts_ne_nil _, ?_⟩
  rcases hfront with ⟨hp, -⟩ | hp
  · exact .inl (by rw [parts, hp]; rfl)
  · exact .inr (parts_of_bytes_eq hp)

/-- The name of an entry is a single piece. -/
theorem parts_of_entryName {name : RawText} (h : IsEntryName name) :
    (⟨name⟩ : Path).parts = [name] := by
  rw [parts, Text.splitAt_of_not_mem h.no_slash]
  rfl

/-- What a relative path is joined onto decides whether the whole is absolute. -/
theorem isAbsolute_join_relative {p q : Path} (hp : p.text ≠ "") (hq : q.isAbsolute = false) :
    (p.join q).isAbsolute = p.isAbsolute := by
  obtain ⟨front, hjoin, hfront⟩ := bytes_join_relative hp hq
  rw [isAbsolute, isAbsolute, hjoin]
  rcases hfront with ⟨hp, hne⟩ | hp
  · rw [hp]
    obtain ⟨c, rest, rfl⟩ := List.exists_cons_of_ne_nil hne
    rfl
  · rw [hp]
    cases front <;> rfl

/-- An absolute path is not empty. -/
theorem text_ne_empty_of_isAbsolute {p : Path} (h : p.isAbsolute = true) : p.text ≠ "" := by
  intro hempty
  rw [isAbsolute, hempty] at h
  cases h

/-- An absolute path is the same from every directory. -/
theorem absolute_of_isAbsolute {p : Path} (h : p.isAbsolute = true) (cwd : Path) :
    cwd.absolute p = p :=
  if_pos h

/-- An absolute path that is joined onto a path replaces it. -/
theorem join_of_isAbsolute {q : Path} (h : q.isAbsolute = true) (p : Path) : p.join q = q :=
  if_pos h

/-- What is joined to an absolute path is an absolute path. -/
theorem isAbsolute_join {p : Path} (h : p.isAbsolute = true) (q : Path) :
    (p.join q).isAbsolute = true := by
  rcases hq : q.isAbsolute with _ | _
  · rw [isAbsolute_join_relative (text_ne_empty_of_isAbsolute h) hq, h]
  · rw [join_of_isAbsolute hq, hq]

/-- **What is joined to a path adds its parts to the components of the path.** A dot at its
start is no component there. -/
theorem components_join_relative {p q : Path} (hp : p.text ≠ "") (hq : q.isAbsolute = false) :
    (p.join q).components = p.components ++ q.parts.filterMap componentOf := by
  obtain ⟨front, hjoin, hne, hfront⟩ := parts_join_relative hp hq
  have hhead : (p.join q).parts.head? = p.parts.head? := by
    obtain ⟨first, rest, rfl⟩ := List.exists_cons_of_ne_nil hne
    rw [hjoin]
    rcases hfront with hp | hp <;> rw [hp] <;> rfl
  have hparts : (p.join q).parts.filterMap componentOf =
      p.parts.filterMap componentOf ++ q.parts.filterMap componentOf := by
    rw [hjoin, List.filterMap_append]
    rcases hfront with hp | hp
    · rw [hp]
    · -- The part behind the slash at the end is empty and no component.
      rw [hp, List.filterMap_append]
      simp [componentOf]
  rw [components, components, hparts, hhead, isAbsolute_join_relative hp hq, List.append_assoc]

/-- **A name adds one component to a path.** -/
theorem components_join {p : Path} (hp : p.text ≠ "") {name : RawText} (h : IsEntryName name) :
    (p.join ⟨name⟩).components = p.components ++ [.name name] := by
  rw [components_join_relative hp (isAbsolute_of_entryName h), parts_of_entryName h,
    List.filterMap_cons_some (componentOf_entryName h), List.filterMap_nil]

/-- A relative path joined onto a path that is not empty gives none that is. -/
theorem text_join_relative_ne_empty {p q : Path} (hp : p.text ≠ "") (hq : q.isAbsolute = false) :
    (p.join q).text ≠ "" := by
  obtain ⟨front, hjoin, -⟩ := bytes_join_relative hp hq
  refine mt RawText.bytes_eq_nil_iff.2 ?_
  rw [hjoin]
  simp

/-- A name joined onto a path that is not empty gives none that is. -/
theorem text_join_ne_empty {p : Path} (hp : p.text ≠ "") {name : RawText} (h : IsEntryName name) :
    (p.join ⟨name⟩).text ≠ "" :=
  text_join_relative_ne_empty hp (isAbsolute_of_entryName h)

/-- A joined name makes a path longer by the name, and by a slash at most. -/
theorem length_join {p : Path} (hp : p.text ≠ "") {name : RawText} (h : IsEntryName name) :
    p.text.bytes.length + name.bytes.length ≤ (p.join ⟨name⟩).text.bytes.length ∧
      (p.join ⟨name⟩).text.bytes.length ≤ p.text.bytes.length + 1 + name.bytes.length := by
  obtain ⟨front, hjoin, hfront⟩ := bytes_join_relative hp (isAbsolute_of_entryName h)
  rcases hfront with ⟨hp, -⟩ | hp <;> rw [hjoin, hp] <;> simp <;> omega

/-- The path that leads down from a path by names. -/
def descend (p : Path) (names : Location) : Path := names.foldl (fun p name => p.join ⟨name⟩) p

/-- Names that lead down from a path are its last components. -/
theorem components_descend {p : Path} (hp : p.text ≠ "") {names : Location}
    (h : ∀ name ∈ names, IsEntryName name) :
    (p.descend names).components = p.components ++ names.map .name := by
  induction names generalizing p with
  | nil => exact (List.append_nil _).symm
  | cons name rest ih =>
    rw [List.forall_mem_cons] at h
    show ((p.join ⟨name⟩).descend rest).components = _
    rw [ih (text_join_ne_empty hp h.1) h.2, components_join hp h.1, List.append_assoc]
    rfl

/-- A path that leads down by names is at least as long as the path above and all the names. -/
theorem length_descend {p : Path} (hp : p.text ≠ "") {names : Location}
    (h : ∀ name ∈ names, IsEntryName name) :
    p.text.bytes.length + (names.map (·.bytes.length)).sum ≤
      (p.descend names).text.bytes.length := by
  induction names generalizing p with
  | nil => exact Nat.le_refl _
  | cons name names ih =>
    obtain ⟨hname, hrest⟩ := List.forall_mem_cons.1 h
    have hjoin := (length_join hp hname).1
    have hdescend := ih (text_join_ne_empty hp hname) hrest
    rw [List.map_cons, List.sum_cons]
    exact Nat.le_trans (by omega) hdescend

/-! ### The order -/

/-- Components that start alike are ordered as they go on. -/
theorem componentsLe_append (cs as bs : List Component) :
    componentsLe (cs ++ as) (cs ++ bs) = componentsLe as bs := by
  induction cs with
  | nil => rfl
  | cons c cs ih =>
    have hself : c.before c = false := by
      cases c with
      | name text => simp [Component.before]
      | root => rfl
      | here => rfl
      | parent => rfl
    rw [List.cons_append, List.cons_append, componentsLe, hself, ih]
    rfl

/-- Names are compared one by one from the front. -/
theorem componentsLe_map_name_iff {as bs : Location} :
    componentsLe (as.map .name) (bs.map .name) = true ↔ ¬ bs < as := by
  induction as generalizing bs with
  | nil => simp [componentsLe]
  | cons a as ih =>
    cases bs with
    | nil => simp [componentsLe]
    | cons b bs =>
      rw [List.map_cons, List.map_cons, componentsLe, List.cons_lt_cons_iff, Component.before,
        Component.before]
      rcases lt_trichotomy a b with hlt | rfl | hlt
      · simp [hlt, hlt.asymm, hlt.ne']
      · simp [ih]
      · simp [hlt, hlt.asymm]

/-- **Paths that lead down from one path are ordered as their names are.** -/
theorem le_descend_iff {p : Path} (hp : p.text ≠ "") {as bs : Location}
    (ha : ∀ name ∈ as, IsEntryName name) (hb : ∀ name ∈ bs, IsEntryName name) :
    (p.descend as).le (p.descend bs) = true ↔ ¬ bs < as := by
  rw [le, components_descend hp ha, components_descend hp hb, componentsLe_append,
    componentsLe_map_name_iff]

/-- Different names lead down to different paths. -/
theorem descend_injective {p : Path} (hp : p.text ≠ "") {as bs : Location}
    (ha : ∀ name ∈ as, IsEntryName name) (hb : ∀ name ∈ bs, IsEntryName name)
    (h : p.descend as = p.descend bs) : as = bs := by
  have hcomponents := congrArg components h
  rw [components_descend hp ha, components_descend hp hb] at hcomponents
  exact List.map_injective_iff.2 (fun _ _ => Component.name.inj)
    (List.append_cancel_left hcomponents)

end Path

/-! ### Lists of names and their starts -/

/-- A list comes before those that it starts. -/
theorem lt_of_isPrefix_of_ne {as bs : Location} (h : as <+: bs) (hne : as ≠ bs) : as < bs := by
  obtain ⟨rest, rfl⟩ := h
  induction as with
  | nil =>
    cases rest with
    | nil => exact absurd rfl hne
    | cons b rest => exact List.nil_lt_cons ..
  | cons a as ih =>
    refine List.cons_lt_cons_iff.2 (.inr ⟨rfl, ih fun h => hne ?_⟩)
    rw [List.cons_append, ← h]

/-- What lies between two lists with one start has that start. -/
theorem isPrefix_of_between {start as bs cs : Location} (ha : start <+: as) (hc : start <+: cs)
    (hab : ¬ bs < as) (hbc : ¬ cs < bs) : start <+: bs := by
  induction start generalizing as bs cs with
  | nil => exact List.nil_prefix
  | cons x start ih =>
    obtain ⟨as, rfl⟩ := ha
    obtain ⟨cs, rfl⟩ := hc
    cases bs with
    | nil => exact absurd (List.nil_lt_cons ..) hab
    | cons y bs =>
      rw [List.cons_append, List.cons_lt_cons_iff, not_or] at hab hbc
      obtain rfl : x = y := le_antisymm (not_lt.1 hab.1) (not_lt.1 hbc.1)
      exact List.cons_prefix_cons.2 ⟨rfl, ih (List.prefix_append ..) (List.prefix_append ..)
        (fun h => hab.2 ⟨rfl, h⟩) fun h => hbc.2 ⟨rfl, h⟩⟩

end Rulebook
