/-
# The order of metadata files

Specification §4.2 (Rule Repository Loader).

Where a metadata file lies below the directory from which a load starts is said by the names
that lead to its directory and by its own name (`MetadataPlace`). The files that a load deals
with are exactly those at which a regular file is found under the name of a metadata file
(`MetadataPlace.LiesBelow`), and they come in one order: by the names of the directory, one by
one, and then by the name of the file (`MetadataPlace.Before`).

That order goes through the tree subtree by subtree. Between two files of a subtree come
only files of the subtree (`isPrefix_of_between`), so they are contiguous in every list that
is in this order (`contiguous_of_pairwise`), and the files of a directory come before those
of its subdirectories (`lt_of_isPrefix_of_ne`). All this is in `MetadataOrder`.
-/

import Rulebook.RuleSet.Scan
import Rulebook.Proofs.FileTree.Walk
import Rulebook.Proofs.RuleSet.Uncached

namespace Rulebook

/-! ### Lists in an order -/

section Ordered

variable {α : Type u} {R : α → α → Prop} {l : List α}

/-- The elements with a property stand next to each other. -/
def Contiguous (p : α → Prop) (l : List α) : Prop :=
  ∃ before block after, l = before ++ block ++ after ∧ (∀ x ∈ before, ¬ p x) ∧
    (∀ x ∈ block, p x) ∧ ∀ x ∈ after, ¬ p x

/-- What holds of two elements and of all between them holds of a block of an ordered list. -/
theorem contiguous_of_pairwise (h : l.Pairwise R) {p : α → Prop}
    (hbetween : ∀ x y z, R x y → R y z → p x → p z → p y) : Contiguous p l := by
  induction l with
  | nil => exact ⟨[], [], [], by simp⟩
  | cons x l ih =>
    obtain ⟨hx, hl⟩ := List.pairwise_cons.1 h
    obtain ⟨before, block, after, rfl, hbefore, hblock, hafter⟩ := ih hl
    by_cases hp : p x
    · rcases block with _ | ⟨z, block⟩
      · refine ⟨[], [x], before ++ after, by simp, by simp, by simpa using hp, fun y hy => ?_⟩
        rcases List.mem_append.1 hy with hy | hy
        · exact hbefore y hy
        · exact hafter y hy
      · -- An element in front of the block would lie between `x` and the block.
        rcases before with _ | ⟨y, before⟩
        · refine ⟨[], x :: z :: block, after, by simp, by simp, ?_, hafter⟩
          exact List.forall_mem_cons.2 ⟨hp, hblock⟩
        · have hyz : R y z := (List.pairwise_cons.1 hl).1 z (by simp)
          exact absurd (hbetween x y z (hx y (by simp)) hyz hp (hblock z (by simp)))
            (hbefore y (by simp))
    · refine ⟨x :: before, block, after, by simp, ?_, hblock, hafter⟩
      exact List.forall_mem_cons.2 ⟨hp, hbefore⟩

variable [IsStrictOrder α R]

/-- Some elements of a strictly ordered list, in this order, are a part of the list. -/
theorem sublist_of_pairwise (h : l.Pairwise R) {part : List α} (hpart : part.Pairwise R)
    (hmem : part ⊆ l) : part.Sublist l :=
  have hnodup : part.Nodup := hpart.imp fun hxy => ne_of_irrefl hxy
  List.sublist_of_subperm_of_pairwise (List.subperm_of_subset hnodup hmem) hpart h

/-- There is one list with certain elements in a strict order. -/
theorem eq_of_pairwise_of_mem_iff {l' : List α} (h : l.Pairwise R) (h' : l'.Pairwise R)
    (hmem : ∀ x, x ∈ l ↔ x ∈ l') : l = l' :=
  (sublist_of_pairwise h' h fun x hx => (hmem x).1 hx).antisymm
    (sublist_of_pairwise h h' fun x hx => (hmem x).2 hx)

/-- In an ordered list, an element behind which no other has a property is one after all
others with it. -/
theorem exists_split_iff_of_pairwise (h : l.Pairwise R) {p q : α → Prop} :
    (∃ before x after, l = before ++ x :: after ∧ p x ∧ ∀ y ∈ after, ¬ q y) ↔
      ∃ x ∈ l, p x ∧ ∀ y ∈ l, q y → y = x ∨ R y x := by
  constructor
  · rintro ⟨before, x, after, rfl, hp, hafter⟩
    obtain ⟨-, -, hbefore⟩ := List.pairwise_append.1 h
    refine ⟨x, by simp, hp, fun y hy hq => ?_⟩
    rcases List.mem_append.1 hy with hy | hy
    · exact .inr (hbefore y hy x (by simp))
    · exact .inl ((List.mem_cons.1 hy).resolve_right fun hy => hafter y hy hq)
  · rintro ⟨x, hx, hp, hlast⟩
    obtain ⟨before, after, rfl⟩ := List.append_of_mem hx
    refine ⟨before, x, after, rfl, hp, fun y hy hq => ?_⟩
    have hxy : R x y := (List.pairwise_cons.1 (List.pairwise_append.1 h).2.1).1 y hy
    rcases hlast y (by simp [hy]) hq with rfl | hyx
    · exact irrefl y hxy
    · exact asymm hxy hyx

end Ordered

/-! ### The places of metadata files -/

/-- Where a metadata file lies below a directory. -/
@[ext]
structure MetadataPlace where
  /-- The names that lead to the directory of the file. -/
  directory : Location
  name : RawText
deriving DecidableEq, Repr

namespace MetadataPlace

/-- The path of a file, where a path leads to the directory above it. -/
def path (root : Path) (f : MetadataPlace) : Path := (root.descend f.directory).join ⟨f.name⟩

/-- The file as it is read. -/
def scanned (tree : FileTree) (root : Path) (f : MetadataPlace) : ScannedFile where
  directory := root.descend f.directory
  path := f.path root
  parsed := Rule.ofBytes ((tree.regular? (f.path root)).getD [])

/-- Files by their directories, name by name, and then by their own names. -/
def Before (f g : MetadataPlace) : Prop :=
  f.directory < g.directory ∨ f.directory = g.directory ∧ f.name < g.name

instance (f g : MetadataPlace) : Decidable (f.Before g) :=
  inferInstanceAs (Decidable (_ ∨ _ ∧ _))

/-- A metadata file lies below a directory: it is an entry of the directory or of one that is
reached from there by names alone, its name is a text `*.json` without a dot at the start, and
it is a regular file or a link that leads to one. -/
structure LiesBelow (tree : FileTree) (root : Path) (entries : List (RawText × FileNode))
    (f : MetadataPlace) : Prop where
  isSome_at? : ((FileNode.directory entries).at? (f.directory ++ [f.name])).isSome
  named : ∃ text : String, f.name = text ∧ text.toList.head? ≠ some '.' ∧
    ".json".toList <:+ text.toList
  regular : ∃ place bytes, tree.locate true (f.path root) = .ok (place, .file bytes)

instance : IsStrictOrder MetadataPlace Before where
  irrefl f := by
    rintro (h | ⟨-, h⟩)
    · exact lt_irrefl _ h
    · exact lt_irrefl _ h
  trans f g k hfg hgk := by
    rcases hfg with hfg | ⟨hfg, hfg'⟩ <;> rcases hgk with hgk | ⟨hgk, hgk'⟩
    · exact .inl (lt_trans hfg hgk)
    · exact .inl (hgk ▸ hfg)
    · exact .inl (hfg ▸ hgk)
    · exact .inr ⟨hfg.trans hgk, lt_trans hfg' hgk'⟩

/-- Of two files in order the directory of the second is not before that of the first. -/
theorem Before.not_directory_lt {f g : MetadataPlace} (h : f.Before g) :
    ¬ g.directory < f.directory := by
  rcases h with h | ⟨h, -⟩
  · exact lt_asymm h
  · exact h ▸ lt_irrefl _

end MetadataPlace

/-- All metadata files below a directory, in the order of the tree. -/
structure MetadataOrder (tree : FileTree) (root : Path) (entries : List (RawText × FileNode))
    (files : List MetadataPlace) : Prop where
  mem_iff : ∀ f, f ∈ files ↔ f.LiesBelow tree root entries
  pairwise_before : files.Pairwise MetadataPlace.Before
  /-- The order is that of the paths of the directories, component by component. -/
  pairwise_le : files.Pairwise fun f g => (root.descend f.directory).le (root.descend g.directory)
  /-- The files of one directory stand next to each other, and so do those of a subtree. -/
  directory_contiguous : ∀ names, Contiguous (fun f => f.directory = names) files
  subtree_contiguous : ∀ names, Contiguous (fun f => names <+: f.directory) files
  /-- The files of a directory come before those of the directories below it. -/
  directory_first : ∀ f ∈ files, ∀ g ∈ files, f.directory <+: g.directory →
    f.directory ≠ g.directory → [f, g].Sublist files

/-- What is in the order of a tree goes through it subtree by subtree. -/
theorem MetadataOrder.of_pairwise {tree : FileTree} {root : Path}
    {entries : List (RawText × FileNode)} (htext : root.text ≠ "")
    (hnames : (FileNode.directory entries).WellNamed) {files : List MetadataPlace}
    (hmem : ∀ f, f ∈ files ↔ f.LiesBelow tree root entries)
    (h : files.Pairwise MetadataPlace.Before) : MetadataOrder tree root entries files := by
  refine ⟨hmem, h, ?_, fun names => ?_, fun names => ?_, fun f hf g hg hprefix hne => ?_⟩
  · refine h.imp_of_mem fun {f g} hf hg hbefore => ?_
    have hentry {f : MetadataPlace} (hf : f ∈ files) : ∀ name ∈ f.directory, IsEntryName name := by
      obtain ⟨node, hnode⟩ := Option.isSome_iff_exists.1 ((hmem f).1 hf).isSome_at?
      exact fun name hname => hnames.isEntryName hnode name (List.mem_append_left _ hname)
    exact (Path.le_descend_iff htext (hentry hf) (hentry hg)).2 hbefore.not_directory_lt
  · refine contiguous_of_pairwise h fun f g k hfg hgk hf hk => ?_
    have hnot := hfg.not_directory_lt
    have hnot' := hgk.not_directory_lt
    subst hf
    rw [hk] at hnot'
    exact le_antisymm (not_lt.1 hnot') (not_lt.1 hnot)
  · exact contiguous_of_pairwise h fun f g k hfg hgk hf hk =>
      isPrefix_of_between hf hk hfg.not_directory_lt hgk.not_directory_lt
  · have hbefore : f.Before g := .inl (lt_of_isPrefix_of_ne hprefix hne)
    exact sublist_of_pairwise h (List.pairwise_pair.2 hbefore) (by simp [hf, hg])

/-! ### The files of a load -/

/-- The name of a metadata file is a text `*.json` without a dot at the start. -/
theorem isMetadataName_iff {name : RawText} :
    isMetadataName name = true ↔
      ∃ text : String, name = text ∧ text.toList.head? ≠ some '.' ∧
        ".json".toList <:+ text.toList := by
  simp only [← RawText.text?_eq_some_iff]
  unfold isMetadataName
  rcases name.text? with _ | text
  · simp
  · simp [Rule.metadataSuffix]

namespace FileTree

variable {tree : FileTree} {root : Path} {place : Location} {entries : List (RawText × FileNode)}

/-- A regular file is found where a path leads to one. -/
theorem regular?_eq_some_iff {p : Path} {bytes : List UInt8} :
    tree.regular? p = some bytes ↔ ∃ place, tree.locate true p = .ok (place, .file bytes) := by
  rw [regular?]
  split
  · rename_i place found hlocate
    simp [hlocate]
  · rename_i hother
    simp only [reduceCtorEq, false_iff, not_exists]
    exact fun place hlocate => hother place bytes hlocate

/-- The candidates of a directory are its entries of such names under which a regular file is found.
-/
theorem mem_candidates_iff {d : Directory} {name : RawText} {bytes : List UInt8} :
    (name, bytes) ∈ tree.candidates d ↔
      name ∈ d.entries.map (·.1) ∧ isMetadataName name = true ∧
        tree.regular? (d.path.join ⟨name⟩) = some bytes := by
  simp only [candidates, List.mem_mergeSort, List.mem_filterMap, List.mem_map]
  constructor
  · rintro ⟨⟨key, node⟩, he, hfound⟩
    split_ifs at hfound with hname
    obtain ⟨_, hread, heq⟩ := Option.map_eq_some_iff.1 hfound
    obtain ⟨rfl, rfl⟩ := Prod.mk.inj heq
    exact ⟨⟨_, he, rfl⟩, hname, hread⟩
  · rintro ⟨⟨e, he, rfl⟩, hname, hread⟩
    exact ⟨e, he, by simp [hname, hread]⟩

/-- The candidates of a directory are in the order of their names. -/
theorem pairwise_candidates {d : Directory} (h : (d.entries.map (·.1)).Nodup) :
    (tree.candidates d).Pairwise fun a b => a.1 < b.1 := by
  refine pairwise_lt_mergeSort (fun a b => by rw [decide_eq_true_iff, not_lt]) ?_
  refine List.pairwise_map.2 (List.pairwise_filterMap.2 ((List.pairwise_map.1 h).imp ?_))
  rintro ⟨key, node⟩ ⟨key', node'⟩ hne b hb b' hb'
  simp only at hb hb'
  split_ifs at hb hb'
  obtain ⟨_, -, rfl⟩ := Option.map_eq_some_iff.1 hb
  obtain ⟨_, -, rfl⟩ := Option.map_eq_some_iff.1 hb'
  exact hne

/-- The places of the metadata files of a directory. -/
def placesIn (tree : FileTree) (root : Path) (d : Listing) : List MetadataPlace :=
  (tree.candidates (d.directory root)).map fun c => ⟨d.names, c.1⟩

/-- The places of the metadata files below a directory, in order. -/
def metadataPlaces (tree : FileTree) (root : Path) (entries : List (RawText × FileNode)) :
    List MetadataPlace :=
  (FileNode.directory entries).listings.flatMap (tree.placesIn root)

/-- The files that are scanned in a directory are those at its places. -/
theorem scanDirectory_eq_map (d : Listing) :
    tree.scanDirectory (d.directory root) = (tree.placesIn root d).map (·.scanned tree root) := by
  rw [scanDirectory, placesIn, List.map_map]
  refine List.map_congr_left ?_
  rintro ⟨name, bytes⟩ hc
  have hread : tree.regular? ((root.descend d.names).join ⟨name⟩) = some bytes :=
    (mem_candidates_iff.1 hc).2.2
  simp only [Function.comp_apply, MetadataPlace.scanned, MetadataPlace.path, Listing.directory,
    hread, Option.getD_some]

/-- The files that are scanned in directories are those at their places. -/
theorem scan_map_directory (l : List Listing) :
    tree.scan (l.map (·.directory root)) =
      (l.flatMap (tree.placesIn root)).map (·.scanned tree root) := by
  rw [scan, List.flatMap_map, List.map_flatMap]
  exact List.flatMap_congr fun d _ => scanDirectory_eq_map d

/-- **The metadata files of a load are those at the places below its root**, in their order. -/
theorem metadataFiles_eq (hnames : tree.root.WellNamed)
    (hroot : tree.locate false root = .ok (place, .directory entries)) :
    tree.metadataFiles root =
      .ok ((tree.metadataPlaces root entries).map (·.scanned tree root)) := by
  rw [metadataFiles, walk_eq hnames hroot, metadataPlaces, ← scan_map_directory,
    FileNode.listings_directory]
  rfl

/-- The places of metadata files are those that lie below the directory. -/
theorem mem_metadataPlaces_iff (hentries : (FileNode.directory entries).WellNamed)
    {f : MetadataPlace} :
    f ∈ tree.metadataPlaces root entries ↔ f.LiesBelow tree root entries := by
  rw [metadataPlaces, List.mem_flatMap]
  constructor
  · rintro ⟨d, hd, hf⟩
    obtain ⟨⟨name, bytes⟩, hc, rfl⟩ := List.mem_map.1 hf
    obtain ⟨hentry, hname, hread⟩ := mem_candidates_iff.1 hc
    obtain ⟨⟨_, node⟩, he, rfl⟩ := List.mem_map.1 hentry
    have hat := (FileNode.mem_listings_iff hentries).1 hd
    have hlookup := (lookup_eq_some_iff_mem (hentries _ _ hat).1).2 he
    refine ⟨?_, isMetadataName_iff.1 hname, ?_⟩
    · rw [FileNode.at?_append, hat, Option.bind_some, FileNode.at?_directory_cons, hlookup]
      rfl
    · obtain ⟨place, hlocate⟩ := regular?_eq_some_iff.1 hread
      exact ⟨place, bytes, hlocate⟩
  · rintro ⟨hsome, hnamed, place, bytes, hlocate⟩
    obtain ⟨node, hnode⟩ := Option.isSome_iff_exists.1 hsome
    obtain ⟨inner, hinner, hlookup⟩ := FileNode.at?_append_singleton_eq_some_iff.1 hnode
    refine ⟨⟨f.directory, inner⟩, (FileNode.mem_listings_iff hentries).2 hinner, ?_⟩
    have hmem := (lookup_eq_some_iff_mem (hentries _ _ hinner).1).1 hlookup
    refine List.mem_map.2 ⟨(f.name, bytes), mem_candidates_iff.2 ⟨?_, ?_, ?_⟩, rfl⟩
    · exact List.mem_map_of_mem hmem
    · exact isMetadataName_iff.2 hnamed
    · exact regular?_eq_some_iff.2 ⟨place, hlocate⟩

/-- The places of metadata files are in order. -/
theorem pairwise_metadataPlaces (hentries : (FileNode.directory entries).WellNamed) :
    (tree.metadataPlaces root entries).Pairwise MetadataPlace.Before := by
  rw [metadataPlaces, List.pairwise_flatMap]
  constructor
  · intro d hd
    have hnodup := (hentries _ _ ((FileNode.mem_listings_iff hentries).1 hd)).1
    exact List.pairwise_map.2
      ((pairwise_candidates (d := d.directory root) hnodup).imp fun h => .inr ⟨rfl, h⟩)
  · refine (FileNode.pairwise_listings hentries).imp fun {d d'} hlt f hf g hg => ?_
    obtain ⟨_, -, rfl⟩ := List.mem_map.1 hf
    obtain ⟨_, -, rfl⟩ := List.mem_map.1 hg
    exact .inl hlt

/-- The places of the metadata files below a root are in the order of its tree. -/
theorem metadataOrder (hnames : tree.root.WellNamed)
    (hroot : tree.locate false root = .ok (place, .directory entries)) :
    MetadataOrder tree root entries (tree.metadataPlaces root entries) := by
  obtain ⟨hresolve, hat⟩ := resolve_of_locate hroot
  exact .of_pairwise (text_ne_empty_of_resolve hresolve) (hnames.at? hat)
    (fun _ => mem_metadataPlaces_iff (hnames.at? hat)) (pairwise_metadataPlaces (hnames.at? hat))

end FileTree

end Rulebook
