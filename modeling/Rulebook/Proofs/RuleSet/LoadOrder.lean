/-
# Loading in the order of the tree

Specification §4.2 (Rule Repository Loader).

A load from a directory always gives a rule set. Its outcomes are those of the metadata files
below the directory, one for each file, in the order of the tree (`MetadataOrder`), and the
active rule under a reference id is that of the file that comes last in this order
(`RuleSet.Follows`), so a rule overrides those with its id in the directories above.

How the operating system lists directories has no say in this (`load_in_tree_order`). The
files of the tree are the same whatever the listing, and there is one list of them in the
strict order of their places (`eq_of_pairwise_of_mem_iff`); and what is loaded from a file is
looked up by paths alone (`FileTree.Relists.uncached_eq`).

Not every regular file `*.json` is a metadata file. One whose name is not UTF-8 is passed over,
and so is one whose path is too long for the operating system to find it
(`Unlisted.results_eq_nil`).
-/

import Rulebook.Proofs.FileTree.Canonical
import Rulebook.Proofs.FileTree.Descend
import Rulebook.Proofs.FileTree.Relisted
import Rulebook.Proofs.RuleSet.Counts
import Rulebook.Proofs.RuleSet.Order

namespace Rulebook

/-! ### Outcomes and rules in an order of files -/

/-- The outcomes of a rule set are those of files in their order, each under its own path, and
the active rules are those of the files that are registered last under their ids. -/
structure RuleSet.Follows (tree : FileTree) (s : Selection) (root : Path)
    (files : List MetadataPlace) (set : RuleSet) : Prop where
  results_eq : set.results = files.map fun f => tree.result s (f.scanned tree root)
  nodup_paths : (set.results.map (·.path)).Nodup
  get?_rules_iff : ∀ id loaded, set.rules.get? id = some loaded ↔
    ∃ f ∈ files, tree.Registers s (f.scanned tree root) id loaded ∧
      ∀ g ∈ files, (tree.result s (g.scanned tree root)).status = .registered id →
        g = f ∨ g.Before f
  /-- Of two files registered under one id, that in a directory above the other's does not give
  the active rule: this one comes from the other file, or from one behind it. -/
  overridden : ∀ f ∈ files, ∀ g ∈ files, ∀ id,
    f.directory <+: g.directory → f.directory ≠ g.directory →
    (tree.result s (f.scanned tree root)).status = .registered id →
    (tree.result s (g.scanned tree root)).status = .registered id →
      ∃ h ∈ files, ∃ active, tree.Registers s (h.scanned tree root) id active ∧
        set.rules.get? id = some active ∧ f.Before h ∧ (g = h ∨ g.Before h)

section

variable {tree : FileTree} {s : Selection} {root : Path} {entries : List (RawText × FileNode)}
  {files : List MetadataPlace}

/-- Files at different places have different paths. -/
theorem MetadataOrder.nodup_paths (h : MetadataOrder tree root entries files)
    (htext : root.text ≠ "") (hnames : (FileNode.directory entries).WellNamed) :
    (files.map (·.path root)).Nodup := by
  refine List.Nodup.map_on (fun f hf g hg hpath => ?_)
    (h.pairwise_before.imp fun hbefore => ne_of_irrefl hbefore)
  obtain ⟨node, hnode⟩ := Option.isSome_iff_exists.1 ((h.mem_iff f).1 hf).isSome_at?
  obtain ⟨node', hnode'⟩ := Option.isSome_iff_exists.1 ((h.mem_iff g).1 hg).isSome_at?
  have hpath : root.descend (f.directory ++ [f.name]) = root.descend (g.directory ++ [g.name]) := by
    rw [Path.descend_append_singleton, Path.descend_append_singleton]
    exact hpath
  have hnames := Path.descend_injective htext (hnames.isEntryName hnode)
    (hnames.isEntryName hnode') hpath
  obtain ⟨hdirectory, hname⟩ := List.append_inj' hnames rfl
  exact MetadataPlace.ext hdirectory (List.singleton_injective hname)

/-- **The active rule is that of the last file in the order.** -/
theorem MetadataOrder.get?_rules_iff (h : MetadataOrder tree root entries files) {id : String}
    {loaded : LoadedRule} :
    (Loading.uncached tree s (files.map (·.scanned tree root))).finish.rules.get? id =
        some loaded ↔
      ∃ f ∈ files, tree.Registers s (f.scanned tree root) id loaded ∧
        ∀ g ∈ files, (tree.result s (g.scanned tree root)).status = .registered id →
          g = f ∨ g.Before f := by
  show (SortedMap.ofList ((files.map _).filterMap (tree.registration? s))).get? id = some loaded ↔ _
  have hstatus (g : MetadataPlace) :
      (tree.result s (g.scanned tree root)).status = .registered id ↔
        ∃ other, tree.registration? s (g.scanned tree root) = some (id, other) := by
    simp only [← FileTree.registers_iff]
    exact FileTree.outcome_eq_registered_iff_registers
  have hlast := exists_split_iff_of_pairwise h.pairwise_before
    (p := fun f => tree.registration? s (f.scanned tree root) = some (id, loaded))
    (q := fun g => ∃ other, tree.registration? s (g.scanned tree root) = some (id, other))
  simp only [FileTree.registers_iff, hstatus]
  rw [SortedMap.get?_ofList_eq_some_iff, List.filterMap_map, givesLast_filterMap_iff]
  simpa only [not_exists, Function.comp_apply, ne_eq] using hlast

/-- What a load makes of files in the order of a tree follows them. -/
theorem MetadataOrder.follows_uncached (h : MetadataOrder tree root entries files)
    (htext : root.text ≠ "") (hnames : (FileNode.directory entries).WellNamed) :
    (Loading.uncached tree s (files.map (·.scanned tree root))).finish.Follows tree s root
      files := by
  refine ⟨List.map_map .., ?_, fun id loaded => h.get?_rules_iff, ?_⟩
  · show ((List.map _ (files.map _)).map _).Nodup
    rw [List.map_map, List.map_map]
    exact h.nodup_paths htext hnames
  · intro f hf g hg id hprefix hne _ hstatus
    obtain ⟨loaded, hregisters⟩ := FileTree.outcome_eq_registered_iff_registers.1 hstatus
    have hkey := Loading.mem_keys_rules_iff.2
      ⟨_, List.mem_map_of_mem (f := (·.scanned tree root)) hg, loaded, hregisters⟩
    obtain ⟨active, hactive⟩ := SortedMap.mem_keys_iff.1 hkey
    obtain ⟨last, hlast, hlastRegisters, hafter⟩ := h.get?_rules_iff.1 hactive
    have hfg : f.Before g := .inl (lt_of_isPrefix_of_ne hprefix hne)
    have hgl := hafter g hg hstatus
    refine ⟨last, hlast, active, hlastRegisters, hactive, ?_, hgl⟩
    rcases hgl with rfl | hgl
    · exact hfg
    · exact trans_of MetadataPlace.Before hfg hgl

end

/-! ### Another listing of the same file system -/

namespace FileTree.Relists

variable {a b : FileTree} {s : Selection}

/-- A rule and its body come from the same files in both listings. -/
theorem source_eq (h : a.Relists b) (directory : Path) (parsed : Json.Decoded Rule) :
    a.source s directory parsed = b.source s directory parsed := by
  simp only [source, h.canonicalize_eq, h.read_eq]

/-- The same rule is loaded in both listings. -/
theorem loadRule_eq (h : a.Relists b) (directory : Path) (parsed : Json.Decoded Rule) :
    a.loadRule s directory parsed = b.loadRule s directory parsed := by
  rw [loadRule, loadRule, h.source_eq]

/-- What is loaded from metadata files is looked up by paths. -/
theorem uncached_eq (h : a.Relists b) (files : List ScannedFile) :
    Loading.uncached a s files = Loading.uncached b s files := by
  have hregistration : a.registration? s = b.registration? s := by
    funext f
    rw [registration?, registration?, h.loadRule_eq]
  have hbody : a.bodyEntry? s = b.bodyEntry? s := by
    funext f
    rw [FileTree.bodyEntry?, FileTree.bodyEntry?, h.source_eq]
  have hresult : a.result s = b.result s := by
    funext f
    rw [result, result, outcome, outcome, h.loadRule_eq]
  simp only [Loading.uncached, hregistration, hbody, hresult, h.loadRule_eq]

/-- The same contents are read at a place in both listings. -/
theorem scanned_eq (h : a.Relists b) (root : Path) (f : MetadataPlace) :
    f.scanned a root = f.scanned b root := by
  rw [MetadataPlace.scanned, MetadataPlace.scanned, h.regular?_eq]

/-- The same metadata files lie below a directory. -/
theorem liesBelow_iff (h : a.Relists b) {root : Path} {entries entries' : List (RawText × FileNode)}
    (hentries : (FileNode.directory entries).Relists (.directory entries')) (f : MetadataPlace) :
    f.LiesBelow a root entries ↔ f.LiesBelow b root entries' := by
  have hat : ((FileNode.directory entries).at? (f.directory ++ [f.name])).isSome =
      ((FileNode.directory entries').at? (f.directory ++ [f.name])).isSome := by
    rw [← Option.isSome_map (f := FileNode.outline), hentries, Option.isSome_map]
  have hregular : (∃ place bytes, a.locate true (f.path root) = .ok (place, .file bytes)) ↔
      ∃ place bytes, b.locate true (f.path root) = .ok (place, .file bytes) := by
    rw [exists_comm, exists_comm (α := Location)]
    simp only [← regular?_eq_some_iff, h.regular?_eq]
  constructor
  · rintro ⟨hsome, hnamed, hfile⟩
    exact ⟨hat ▸ hsome, hnamed, hregular.1 hfile⟩
  · rintro ⟨hsome, hnamed, hfile⟩
    exact ⟨hat ▸ hsome, hnamed, hregular.2 hfile⟩

/-- **However directories are listed, the metadata files are found in one order.** -/
theorem metadataFiles_eq (h : a.Relists b) (ha : a.root.WellNamed) (hb : b.root.WellNamed)
    {root : Path} {place : Location} {entries : List (RawText × FileNode)}
    (hroot : a.locate false root = .ok (place, .directory entries)) :
    a.metadataFiles root = b.metadataFiles root := by
  obtain ⟨entries', hroot', hentries⟩ := h.locate_directory hroot
  have hplaces : a.metadataPlaces root entries = b.metadataPlaces root entries' := by
    have horder := metadataOrder ha hroot
    have horder' := metadataOrder hb hroot'
    refine eq_of_pairwise_of_mem_iff horder.pairwise_before horder'.pairwise_before fun f => ?_
    rw [horder.mem_iff, horder'.mem_iff, h.liesBelow_iff hentries]
  rw [FileTree.metadataFiles_eq ha hroot, FileTree.metadataFiles_eq hb hroot', hplaces]
  exact congrArg Except.ok (List.map_congr_left fun f _ => h.scanned_eq root f)

end FileTree.Relists

/-- **A load from a directory goes through the metadata files below it in the order of the
tree.** It does not fail, whatever the files contain; every metadata file has one outcome,
under its own path, and nothing else has one; the last file under a reference id gives the
active rule. A regular file counts with its own contents, if its path is short enough to be
looked up, and a link with those of the regular file it leads to. In which order directories
are listed makes no difference. -/
theorem load_in_tree_order {tree : FileTree} {root : Path} {place : Location}
    {entries : List (RawText × FileNode)} (hnames : tree.root.WellNamed)
    (hroot : tree.locate false root = .ok (place, .directory entries)) :
    ∃ files, MetadataOrder tree root entries files ∧
      (∀ (f : MetadataPlace) (bytes : List UInt8),
        (FileNode.directory entries).at? (f.directory ++ [f.name]) = some (.file bytes) →
        (f.path root).text.bytes.length < pathLimit →
          tree.locate true (f.path root) = .ok (place ++ (f.directory ++ [f.name]), .file bytes)) ∧
      (∀ s, ∃ set, RuleSet.load tree s root = .ok set ∧ set.Follows tree s root files) ∧
      ∀ other : FileTree, other.root.WellNamed → tree.Relists other → ∀ s,
        RuleSet.load other s root = RuleSet.load tree s root := by
  obtain ⟨hresolve, hat⟩ := FileTree.resolve_of_locate hroot
  have horder := FileTree.metadataOrder hnames hroot
  refine ⟨tree.metadataPlaces root entries, horder, fun f bytes hfile hshort => ?_, fun s => ?_,
    fun other hother hrelists s => ?_⟩
  · rw [MetadataPlace.path, ← Path.descend_append_singleton] at hshort ⊢
    exact FileTree.locate_descend hnames hroot hfile (by simp) hshort
  · exact ⟨_, RuleSet.load_eq_ok_iff.2 ⟨_, FileTree.metadataFiles_eq hnames hroot, rfl⟩,
      horder.follows_uncached (FileTree.text_ne_empty_of_resolve hresolve) (hnames.at? hat)⟩
  · rw [RuleSet.load_eq_map, RuleSet.load_eq_map, hrelists.metadataFiles_eq hnames hother hroot]
    simp only [hrelists.uncached_eq]

/-! ### Files that have no outcome -/

namespace Unlisted

/-- A name of as many bytes as a name can have. -/
def long : RawText := ⟨List.replicate nameLimit 0x64⟩

/-- A name that is not UTF-8, although it ends in `.json`. -/
def misspelt : RawText := ⟨0xFF :: Text.encodeUtf8 ".json"⟩

/-- Directories in each other, all of them with the long name, with a file in the last one. -/
def nest : Nat → FileNode
  | 0 => .directory [("m.json", .file [])]
  | depth + 1 => .directory [(long, nest depth)]

/-- The entries of the directory above them. -/
def entries : List (RawText × FileNode) := [(misspelt, .file []), (long, nest 16)]

/-- A tree with this directory. -/
def tree : FileTree where
  root := .directory [("p", .directory entries)]
  workingDirectory := ⟨"/"⟩

/-- The places of the files in the tree. -/
def places : List MetadataPlace :=
  [⟨[], misspelt⟩, ⟨List.replicate 17 long, "m.json"⟩]

/-- The long name has as many bytes as a name can have. -/
theorem length_long : long.bytes.length = 255 := List.length_replicate

/-- The long name is that of an entry. -/
theorem isEntryName_long : IsEntryName long := by decide +kernel

/-- No directory in another has a name twice. -/
theorem wellNamed_nest (depth : Nat) : (nest depth).WellNamed := by
  induction depth with
  | zero =>
    have hname : IsEntryName "m.json" := by decide
    exact FileNode.wellNamed_singleton hname (.file [])
  | succ depth ih => exact FileNode.wellNamed_singleton isEntryName_long ih

/-- No directory of the tree has a name twice. -/
theorem wellNamed_tree : tree.root.WellNamed := by
  have hname : IsEntryName misspelt := by decide
  have hdir : IsEntryName "p" := by decide
  have hinner : (FileNode.directory entries).WellNamed :=
    FileNode.wellNamed_directory_iff.2 ⟨by decide +kernel, List.forall_mem_cons.2
      ⟨⟨hname, .file []⟩, List.forall_mem_singleton.2 ⟨isEntryName_long, wellNamed_nest 16⟩⟩⟩
  exact FileNode.wellNamed_singleton hdir hinner

/-- The directories in each other lie under the long name. -/
theorem at?_entries (names : Location) :
    (FileNode.directory entries).at? (long :: names) = (nest 16).at? names := by
  have hne : (long == misspelt) = false := by decide +kernel
  rw [FileNode.at?_directory_cons, entries, List.lookup_cons, hne, List.lookup_cons_self]
  rfl

/-- In the last directory lies the file. -/
theorem at?_nest (depth : Nat) :
    (nest depth).at? (List.replicate depth long ++ [("m.json" : RawText)]) =
      some (.file []) := by
  induction depth with
  | zero => rfl
  | succ depth ih =>
    rw [nest, List.replicate_succ, List.cons_append, FileNode.at?_directory_cons,
      List.lookup_cons_self]
    exact ih

/-- In the directories there are only directories with the long name, and one file. -/
theorem eq_of_isSome_at?_nest {depth : Nat} {names : Location} {name : RawText}
    (h : ((nest depth).at? (names ++ [name])).isSome) :
    name = long ∨ names = List.replicate depth long ∧ name = "m.json" := by
  induction depth generalizing names with
  | zero =>
    rcases names with _ | ⟨first, names⟩
    all_goals
      obtain ⟨node, hmem, hinner⟩ := FileNode.exists_mem_of_isSome_at? h
      obtain ⟨hname, rfl⟩ := Prod.mk.inj (List.mem_singleton.1 hmem)
    · exact .inr ⟨rfl, hname⟩
    · exact absurd hinner (FileNode.not_isSome_at?_file _ names name)
  | succ depth ih =>
    rcases names with _ | ⟨first, names⟩
    all_goals
      obtain ⟨node, hmem, hinner⟩ := FileNode.exists_mem_of_isSome_at? h
      obtain ⟨rfl, rfl⟩ := Prod.mk.inj (List.mem_singleton.1 hmem)
    · exact .inl rfl
    · refine (ih hinner).imp_right fun ⟨hnames, hname⟩ => ⟨?_, hname⟩
      rw [hnames, List.replicate_succ]

/-- Below `/p` there are these directories with their file, and the other file. -/
theorem eq_of_isSome_at?_entries {names : Location} {name : RawText}
    (h : ((FileNode.directory entries).at? (names ++ [name])).isSome) :
    name = misspelt ∨ name = long ∨ names = List.replicate 17 long ∧ name = "m.json" := by
  rcases names with _ | ⟨first, names⟩
  all_goals
    obtain ⟨node, hmem, hinner⟩ := FileNode.exists_mem_of_isSome_at? h
    rcases List.mem_cons.1 hmem with hfile | hlong
  · exact .inl (Prod.mk.inj hfile).1
  · exact .inr (.inl (Prod.mk.inj (List.mem_singleton.1 hlong)).1)
  · obtain ⟨-, rfl⟩ := Prod.mk.inj hfile
    exact absurd hinner (FileNode.not_isSome_at?_file _ names name)
  · obtain ⟨rfl, rfl⟩ := Prod.mk.inj (List.mem_singleton.1 hlong)
    refine .inr ((eq_of_isSome_at?_nest hinner).imp_right fun ⟨hnames, hname⟩ => ⟨?_, hname⟩)
    rw [hnames]
    rfl

/-- The path of a file in directories with the long name is longer than all the names. -/
theorem le_length_path (depth : Nat) :
    255 * depth ≤
      (MetadataPlace.path ⟨"/p"⟩ ⟨List.replicate depth long, "m.json"⟩).text.bytes.length := by
  have hentries : ∀ name ∈ List.replicate depth long ++ [("m.json" : RawText)],
      IsEntryName name := by
    have hname : IsEntryName "m.json" := by decide
    refine List.forall_mem_append.2 ⟨fun name hlong => ?_, List.forall_mem_singleton.2 hname⟩
    exact List.eq_of_mem_replicate hlong ▸ isEntryName_long
  have hroot : (⟨"/p"⟩ : Path).text ≠ "" := by decide
  have hlength := Path.length_descend hroot hentries
  rw [Path.descend_append_singleton, List.map_append, List.sum_append, List.map_replicate,
    List.sum_replicate, length_long, smul_eq_mul] at hlength
  exact Nat.le_trans (by omega) hlength

/-- Neither of the files is one that a load deals with. -/
theorem not_liesBelow (f : MetadataPlace) : ¬ f.LiesBelow tree ⟨"/p"⟩ entries := by
  rintro ⟨hsome, hnamed, place, bytes, hlocate⟩
  have hmetadata := isMetadataName_iff.2 hnamed
  have hmisspelt : isMetadataName misspelt = false := by decide +kernel
  have hlong : isMetadataName long = false := by decide +kernel
  obtain ⟨directory, name⟩ := f
  rcases eq_of_isSome_at?_entries hsome with rfl | rfl | ⟨rfl, rfl⟩
  · exact Bool.false_ne_true (hmisspelt.symm.trans hmetadata)
  · exact Bool.false_ne_true (hlong.symm.trans hmetadata)
  · have hlimit : pathLimit ≤ 255 * 17 := by decide
    exact (FileTree.locate_eq_ok_iff.1 hlocate).1.not_ge (hlimit.trans (le_length_path 17))

/-- **Not every file `*.json` has an outcome.** Two regular files lie below `/p`, in a directory
of the tree, and are named `*.json`, byte for byte; a load from there succeeds, and there is no
outcome of either. The name of one of them is not UTF-8, and the other is not found under its
path, which is too long. -/
theorem results_eq_nil :
    tree.root.WellNamed ∧
      tree.locate false ⟨"/p"⟩ = .ok (["p"], .directory entries) ∧
      (∀ f ∈ places,
        (FileNode.directory entries).at? (f.directory ++ [f.name]) = some (.file []) ∧
        f.name.bytes.head? ≠ some 0x2E ∧ Text.encodeUtf8 ".json" <:+ f.name.bytes) ∧
      ∀ s, ∃ set, RuleSet.load tree s ⟨"/p"⟩ = .ok set ∧ set.results = [] := by
  have hroot : tree.locate false ⟨"/p"⟩ = .ok (["p"], .directory entries) := rfl
  refine ⟨wellNamed_tree, hroot, ?_, fun s => ?_⟩
  · exact List.forall_mem_cons.2 ⟨⟨rfl, by decide, by decide⟩,
      List.forall_mem_singleton.2 ⟨(at?_entries _).trans (at?_nest 16), by decide, by decide⟩⟩
  · have hplaces : tree.metadataPlaces ⟨"/p"⟩ entries = [] :=
      List.eq_nil_iff_forall_not_mem.2 fun f hf =>
        not_liesBelow f (((FileTree.metadataOrder wellNamed_tree hroot).mem_iff f).1 hf)
    have hfiles := FileTree.metadataFiles_eq wellNamed_tree hroot
    rw [hplaces] at hfiles
    exact ⟨_, RuleSet.load_eq_ok_iff.2 ⟨_, hfiles, rfl⟩, rfl⟩

end Unlisted

/-! ### A rule in a directory above, and a name with a character before the slash -/

namespace Nested

/-- A directory with a rule. -/
def leaf : FileNode :=
  .directory (Shelf.entries [("m.json", Collision.metadata "q" "")] Collision.body)

/-- A directory with a rule under the same reference id, and the other directory in it. -/
def branch : FileNode :=
  .directory
    (("b", leaf) :: Shelf.entries [("m.json", Collision.metadata "l" "k")] Collision.body)

/-- The entries of the directory above them. -/
def entries : List (RawText × FileNode) := [("a-b", leaf), ("a", branch)]

/-- A tree with this directory, which lists its entries in some order. -/
def tree (entries : List (RawText × FileNode)) : FileTree where
  root := .directory [("p", .directory entries)]
  workingDirectory := ⟨"/"⟩

/-- The metadata file of the directory above. -/
def upper : MetadataPlace := ⟨["a"], "m.json"⟩

/-- The metadata file of the directory in it. -/
def lower : MetadataPlace := ⟨["a", "b"], "m.json"⟩

/-- The places of the metadata files below `p`, in order. -/
def places : List MetadataPlace := [upper, lower, ⟨["a-b"], "m.json"⟩]

/-- Neither directory has a name twice. -/
theorem wellNamed_leaf_branch : leaf.WellNamed ∧ branch.WellNamed := by
  have hshelf (bytes : List UInt8) :
      (FileNode.directory (Shelf.entries [("m.json", bytes)] Collision.body)).WellNamed :=
    Shelf.wellNamed_entries
      (Shelf.Orderly.singleton "m.json" (by decide) (by decide +kernel) bytes)
  have hleaf : leaf.WellNamed := hshelf _
  have hname : IsEntryName "b" := by decide
  exact ⟨hleaf, FileNode.wellNamed_directory_iff.2
    ⟨by decide, List.forall_mem_cons.2
      ⟨⟨hname, hleaf⟩, (FileNode.wellNamed_directory_iff.1 (hshelf _)).2⟩⟩⟩

/-- No directory of the tree has a name twice, in whatever order they are listed. -/
theorem wellNamed_tree {l : List (RawText × FileNode)} (h : l.Perm entries) :
    (tree l).root.WellNamed := by
  obtain ⟨hleaf, hbranch⟩ := wellNamed_leaf_branch
  have hnames : IsEntryName "a-b" ∧ IsEntryName "a" := by decide
  have hentries : ∀ e ∈ entries, IsEntryName e.1 ∧ e.2.WellNamed :=
    List.forall_mem_cons.2
      ⟨⟨hnames.1, hleaf⟩, List.forall_mem_singleton.2 ⟨hnames.2, hbranch⟩⟩
  have hnodup : (l.map (·.1)).Nodup := ((h.map _).nodup_iff).2 (by decide)
  have hinner : (FileNode.directory l).WellNamed :=
    FileNode.wellNamed_directory_iff.2 ⟨hnodup, fun e he => hentries e (h.mem_iff.1 he)⟩
  have hname : IsEntryName "p" := by decide
  exact FileNode.wellNamed_singleton hname hinner

/-- The same tree may list the two directories the other way round. -/
theorem relists_reverse : (tree entries).Relists (tree entries.reverse) := by
  refine ⟨FileNode.Relists.directory fun name => ?_, rfl⟩
  by_cases hname : name = "p"
  · subst hname
    exact .some (FileNode.relists_of_perm (by decide) entries.reverse_perm.symm)
  · have hnone (node : FileNode) : List.lookup name [("p", node)] = none := by
      rw [List.lookup, beq_eq_false_iff_ne.2 hname]
      rfl
    rw [hnone, hnone]
    exact .none

/-- All three metadata files lie below `/p`. -/
theorem liesBelow_of_mem_places :
    ∀ f ∈ places, f.LiesBelow (tree entries) ⟨"/p"⟩ entries := by
  simp only [places, List.forall_mem_cons]
  have hnamed : ∃ text : String, ("m.json" : RawText) = text ∧ text.toList.head? ≠ some '.' ∧
      ".json".toList <:+ text.toList := ⟨"m.json", rfl, by decide, by decide⟩
  exact ⟨⟨rfl, hnamed, _, _, rfl⟩, ⟨rfl, hnamed, _, _, rfl⟩, ⟨rfl, hnamed, _, _, rfl⟩, by simp⟩

/-- A metadata file beside a body is registered. -/
theorem status_eq {f : MetadataPlace} {name category : String} {bodyPath : Path}
    (hparsed : (f.scanned (tree entries) ⟨"/p"⟩).parsed = .ok (Collision.rule name category))
    (hscreen : Selection.permissive.screen (Collision.rule name category) = none)
    (hcanon : (tree entries).canonicalize (((⟨"/p"⟩ : Path).descend f.directory).join ⟨"x"⟩) =
      .ok bodyPath)
    (hread : (tree entries).read bodyPath = .ok Collision.body) :
    ((tree entries).result .permissive (f.scanned (tree entries) ⟨"/p"⟩)).status =
      .registered "r" :=
  FileTree.outcome_eq_registered_iff_registers.2 ⟨_, FileTree.registers_of_body hparsed hscreen
    hcanon hread (Collision.renderBody_body name category) (Collision.not_isBlankText_body name)⟩

/-- The hypotheses of `load_in_tree_order` are satisfiable: the file in `a/b` comes after that
in `a` and before that in `a-b`, whichever of them is listed first, although the text of the
path `/p/a/b` comes after that of `/p/a-b`; and the rule in `a` is not active. -/
theorem load_in_tree_order_nested :
    (tree entries).root.WellNamed ∧
      (tree entries).locate false ⟨"/p"⟩ = .ok (["p"], .directory entries) ∧
      ∃ set, RuleSet.load (tree entries) .permissive ⟨"/p"⟩ = .ok set ∧
        RuleSet.load (tree entries.reverse) .permissive ⟨"/p"⟩ = .ok set ∧
        [⟨"/p/a/m.json"⟩, ⟨"/p/a/b/m.json"⟩, ⟨"/p/a-b/m.json"⟩].Sublist
          (set.results.map (·.path)) ∧
        ∃ (f : MetadataPlace) (active : LoadedRule), upper.Before f ∧
          (tree entries).Registers .permissive (f.scanned (tree entries) ⟨"/p"⟩) "r" active ∧
          set.rules.get? "r" = some active := by
  have hroot : (tree entries).locate false ⟨"/p"⟩ = .ok (["p"], .directory entries) := rfl
  obtain ⟨files, horder, -, hload, hrelisted⟩ := load_in_tree_order (wellNamed_tree (.refl _)) hroot
  obtain ⟨set, hset, hfollows⟩ := hload .permissive
  have hsame := hrelisted _ (wellNamed_tree entries.reverse_perm) relists_reverse .permissive
  have hmem : places ⊆ files := fun f hf => (horder.mem_iff f).2 (liesBelow_of_mem_places f hf)
  have hsublist : places.Sublist files :=
    sublist_of_pairwise horder.pairwise_before (by decide) hmem
  have hupper := status_eq (f := upper) Collision.ofBytes_metadata.1 (by decide) rfl rfl
  have hlower := status_eq (f := lower) Collision.ofBytes_metadata.2 (by decide) rfl rfl
  obtain ⟨f, -, active, hregisters, hactive, hbefore, -⟩ :=
    hfollows.overridden upper (hmem (by decide)) lower (hmem (by decide)) "r" (by decide)
      (by decide) hupper hlower
  refine ⟨wellNamed_tree (.refl _), hroot, set, hset, hsame.trans hset, ?_, f, active, hbefore,
    hregisters, hactive⟩
  rw [hfollows.results_eq, List.map_map]
  exact hsublist.map (·.path ⟨"/p"⟩)

end Nested

end Rulebook
