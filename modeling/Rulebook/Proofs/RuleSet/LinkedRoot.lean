/-
# Loading from a link to a directory

Specification §4.2 (Rule Repository Loader).

A walk from a path that ends in a link goes down into the directory to which the link leads,
but it does not meet the directory: what it finds at the path is a link. So a load from there
deals with the metadata files of the directories below and leaves those of the directory itself
out (`FileTree.metadataFiles_of_endsInLink`), and if there are no directories below, it fails.

A load from any other path to a directory agrees with the load from the canonical path of the
directory. One from a path that ends in a link agrees with it exactly if the directory has
subdirectories and no metadata files of its own (`load_agrees_with_canonical_iff`). Both hold as
long as no limit of the operating system is met on one way and not on the other.
-/

import Rulebook.Proofs.RuleSet.LoadOrder
import Rulebook.Proofs.RuleSet.Respelled

namespace Rulebook

namespace FileTree

variable {tree : FileTree} {root : Path} {place : Location} {entries : List (RawText × FileNode)}

/-- A link lies at the end of a path. -/
def EndsInLink (tree : FileTree) (root : Path) : Prop :=
  ∃ holder target, tree.locate false root = .ok (holder, .link target)

/-- Something is listed below a directory exactly if it has a subdirectory. -/
theorem listingsBelow_ne_nil_iff (hentries : (FileNode.directory entries).WellNamed) :
    FileNode.listingsBelow entries ≠ [] ↔
      ∃ name inner, entries.lookup name = some (.directory inner) := by
  constructor
  · intro hne
    obtain ⟨d, hd⟩ := List.exists_mem_of_ne_nil _ hne
    obtain ⟨hnames, hat⟩ := (FileNode.mem_listingsBelow_iff hentries).1 hd
    obtain ⟨name, rest, hcons⟩ := List.exists_cons_of_ne_nil hnames
    rw [hcons, FileNode.at?_directory_cons, Option.bind_eq_some_iff] at hat
    obtain ⟨node, hnode, hrest⟩ := hat
    -- Only a directory has something at the names behind the first.
    cases node with
    | directory inner => exact ⟨name, inner, hnode⟩
    | file bytes => cases rest <;> cases hrest
    | device => cases rest <;> cases hrest
    | link target => cases rest <;> cases hrest
  · rintro ⟨name, inner, hlookup⟩ hnil
    have hmem : (⟨[name], inner⟩ : Listing) ∈ FileNode.listingsBelow entries := by
      refine (FileNode.mem_listingsBelow_iff hentries).2 ⟨List.cons_ne_nil name [], ?_⟩
      rw [FileNode.at?_directory_cons, hlookup]
      rfl
    rw [hnil] at hmem
    cases hmem

/-- **A walk from a link meets what lies below its directory**, without the directory. -/
theorem walk_of_endsInLink (hnames : tree.root.WellNamed)
    (hroot : tree.locate true root = .ok (place, .directory entries))
    (hlink : tree.EndsInLink root) :
    tree.walk root = .ok ((FileNode.listingsBelow entries).map (·.directory root)) := by
  obtain ⟨holder, target, hlink⟩ := hlink
  obtain ⟨hresolve, hat⟩ := resolve_of_locate hroot
  have hentries := hnames.at? hat
  have hbelow : directoriesBelow root entries =
      (reachedInEntries entries).map (·.directory root) := by
    have hreached := FileNode.directories_eq_map_reached root (.directory entries)
    rw [FileNode.directories, FileNode.reached, List.map_cons] at hreached
    exact (List.cons.inj hreached).2
  have hdirectories : tree.directories root =
      .ok ((reachedInEntries entries).map (·.directory root)) := by
    rw [directories, hlink]
    simp only [hroot, FileNode.entries, hbelow]
  have hentryNames : ∀ d ∈ reachedInEntries entries, ∀ name ∈ d.names, IsEntryName name :=
    fun d hd => hentries.isEntryName
      ((FileNode.mem_reached_iff hentries).1 (List.mem_cons_of_mem _ hd))
  rw [walk, hdirectories, FileNode.listingsBelow,
    map_directory_mergeSort (text_ne_empty_of_resolve hresolve) hentryNames]
  rfl

/-- The files below a directory that are not its own are those of the directories below. -/
theorem filter_metadataPlaces (hentries : (FileNode.directory entries).WellNamed) :
    (tree.metadataPlaces root entries).filter (·.directory ≠ []) =
      (FileNode.listingsBelow entries).flatMap (tree.placesIn root) := by
  have hown : (tree.placesIn root ⟨[], entries⟩).filter (·.directory ≠ []) = [] := by
    refine List.filter_eq_nil_iff.2 fun f hf => ?_
    obtain ⟨_, -, rfl⟩ := List.mem_map.1 hf
    simp
  have hbelow : ((FileNode.listingsBelow entries).flatMap (tree.placesIn root)).filter
      (·.directory ≠ []) = (FileNode.listingsBelow entries).flatMap (tree.placesIn root) := by
    refine List.filter_eq_self.2 fun f hf => ?_
    obtain ⟨d, hd, hf⟩ := List.mem_flatMap.1 hf
    obtain ⟨_, -, rfl⟩ := List.mem_map.1 hf
    exact decide_eq_true ((FileNode.mem_listingsBelow_iff hentries).1 hd).1
  rw [metadataPlaces, FileNode.listings_directory, List.flatMap_cons, List.filter_append, hown,
    hbelow, List.nil_append]

/-- **The metadata files of a load from a link**: those of the directories below, if there are
any such directories. -/
theorem metadataFiles_of_endsInLink (hnames : tree.root.WellNamed)
    (hroot : tree.locate true root = .ok (place, .directory entries))
    (hlink : tree.EndsInLink root) :
    tree.metadataFiles root =
      if FileNode.listingsBelow entries = [] then .error (.noDirectories root)
      else .ok (((tree.metadataPlaces root entries).filter (·.directory ≠ [])).map
        (·.scanned tree root)) := by
  have hentries := hnames.at? (resolve_of_locate hroot).2
  rw [metadataFiles, walk_of_endsInLink hnames hroot hlink, filter_metadataPlaces hentries,
    ← scan_map_directory]
  rcases FileNode.listingsBelow entries with _ | ⟨d, ds⟩ <;> rfl

end FileTree

section

variable {tree : FileTree} {root : Path} {place : Location} {entries : List (RawText × FileNode)}
  {s : Selection}

/-- A load from a path that does not end in a link deals with all metadata files below. -/
theorem RuleSet.load_of_not_endsInLink (hnames : tree.root.WellNamed)
    (hroot : tree.locate true root = .ok (place, .directory entries))
    (hlink : ¬ tree.EndsInLink root) :
    RuleSet.load tree s root = .ok (Loading.uncached tree s
      ((tree.metadataPlaces root entries).map (·.scanned tree root))).finish := by
  have hdirect := (FileTree.locate_false_cases hroot).resolve_right hlink
  exact RuleSet.load_eq_ok_iff.2 ⟨_, FileTree.metadataFiles_eq hnames hdirect, rfl⟩

/-- A load from a link fails where there are no directories below, and otherwise leaves the
metadata files of the directory itself out. -/
theorem RuleSet.load_of_endsInLink (hnames : tree.root.WellNamed)
    (hroot : tree.locate true root = .ok (place, .directory entries))
    (hlink : tree.EndsInLink root) :
    RuleSet.load tree s root =
      if FileNode.listingsBelow entries = [] then .error (.noDirectories root)
      else .ok (Loading.uncached tree s (((tree.metadataPlaces root entries).filter
        (·.directory ≠ [])).map (·.scanned tree root))).finish := by
  rw [RuleSet.load_eq_map, FileTree.metadataFiles_of_endsInLink hnames hroot hlink]
  split_ifs <;> rfl

/-- **When a load from a link agrees with a load of all files**: if it does not leave any out. -/
theorem RuleSet.agrees_filter_iff {files : List MetadataPlace} {other : Path}
    (hsame : ∀ f ∈ files, tree.SameSources (f.scanned tree root) (f.scanned tree other)) :
    (Loading.uncached tree s ((files.filter (·.directory ≠ [])).map
        (·.scanned tree root))).finish.Agrees
      (Loading.uncached tree s (files.map (·.scanned tree other))).finish root other ↔
        ∀ f ∈ files, f.directory ≠ [] := by
  constructor
  · intro h f hf
    have hcount := congrArg LoadStats.metadataFiles h.stats_eq
    simp only [Loading.finish, Loading.uncached, List.length_map] at hcount
    exact of_decide_eq_true (List.length_filter_eq_length_iff.1 hcount f hf)
  · intro h
    rw [List.filter_eq_self.2 fun f hf => decide_eq_true (h f hf)]
    exact FileTree.uncached_agrees s hsame

/-- A load from the canonical path deals with the files that lie below the other path. -/
theorem FileTree.WithinLimits.load_locationPath (h : tree.WithinLimits root place entries)
    (hnames : tree.root.WellNamed)
    (hroot : tree.locate true root = .ok (place, .directory entries)) :
    RuleSet.load tree s (locationPath place) = .ok (Loading.uncached tree s
      ((tree.metadataPlaces root entries).map (·.scanned tree (locationPath place)))).finish := by
  obtain ⟨hresolve, hplace⟩ := FileTree.resolve_of_locate hroot
  have hfiles := FileTree.metadataFiles_eq hnames
    (FileTree.locate_locationPath hnames hplace h.place_short)
  rw [← h.metadataPlaces_eq hnames hresolve hplace] at hfiles
  exact RuleSet.load_eq_ok_iff.2 ⟨_, hfiles, rfl⟩

/-- When a load from a path agrees with one from the canonical path, said of what a walk meets
and of the files that a load deals with. -/
theorem FileTree.WithinLimits.load_agrees_iff (h : tree.WithinLimits root place entries)
    (hnames : tree.root.WellNamed)
    (hroot : tree.locate true root = .ok (place, .directory entries)) :
    (∃ other, RuleSet.load tree s root = .ok other ∧ other.Agrees (Loading.uncached tree s
        ((tree.metadataPlaces root entries).map (·.scanned tree (locationPath place)))).finish
        root (locationPath place)) ↔
      (tree.EndsInLink root → FileNode.listingsBelow entries ≠ [] ∧
        ∀ f ∈ tree.metadataPlaces root entries, f.directory ≠ []) := by
  obtain ⟨hresolve, hplace⟩ := FileTree.resolve_of_locate hroot
  have hsame : ∀ f ∈ tree.metadataPlaces root entries,
      tree.SameSources (f.scanned tree root) (f.scanned tree (locationPath place)) :=
    fun f hf => h.sameSources hnames hresolve hplace ((h.liesBelow_iff hnames hresolve hplace).1
      ((FileTree.mem_metadataPlaces_iff (hnames.at? hplace)).1 hf))
  by_cases hlink : tree.EndsInLink root
  · rw [RuleSet.load_of_endsInLink hnames hroot hlink]
    split_ifs with hnil
    · constructor
      · rintro ⟨other, hother, -⟩
        cases hother
      · exact fun hall => absurd hnil (hall hlink).1
    · constructor
      · rintro ⟨other, hother, hagrees⟩ -
        obtain rfl := Except.ok.inj hother
        exact ⟨hnil, (RuleSet.agrees_filter_iff hsame).1 hagrees⟩
      · exact fun hall => ⟨_, rfl, (RuleSet.agrees_filter_iff hsame).2 (hall hlink).2⟩
  · rw [RuleSet.load_of_not_endsInLink hnames hroot hlink]
    exact ⟨fun _ hends => absurd hends hlink, fun _ => ⟨_, rfl, FileTree.uncached_agrees s hsame⟩⟩

/-- **When a load agrees with that from the canonical path.** Below the limits of the operating
system, the canonical path of a directory can be loaded. A load from another path to the
directory gives the same rules and the same counts, and files the outcomes of which are alike,
unless the path ends in a link: then it does so only if the directory has a subdirectory and no
metadata files of its own. Without a subdirectory a load from a link fails, and otherwise it
deals, in the order of the tree, with all metadata files but those of the directory itself. -/
theorem load_agrees_with_canonical_iff (hnames : tree.root.WellNamed)
    (hroot : tree.locate true root = .ok (place, .directory entries))
    (hlimits : tree.WithinLimits root place entries) (s : Selection) :
    ∃ set, RuleSet.load tree s (locationPath place) = .ok set ∧
      ((∃ other, RuleSet.load tree s root = .ok other ∧
          other.Agrees set root (locationPath place)) ↔
        (tree.EndsInLink root →
          (∃ name inner, entries.lookup name = some (.directory inner)) ∧
          ∀ f : MetadataPlace, f.LiesBelow tree (locationPath place) entries →
            f.directory ≠ [])) ∧
      (tree.EndsInLink root → (∀ name inner, entries.lookup name ≠ some (.directory inner)) →
        RuleSet.load tree s root = .error (.noDirectories root)) ∧
      (tree.EndsInLink root → (∃ name inner, entries.lookup name = some (.directory inner)) →
        ∃ files : List MetadataPlace,
          RuleSet.load tree s root =
            .ok (Loading.run tree s (files.map (·.scanned tree root))).finish ∧
          files.Pairwise MetadataPlace.Before ∧
          ∀ f, f ∈ files ↔ f.LiesBelow tree root entries ∧ f.directory ≠ []) := by
  obtain ⟨hresolve, hplace⟩ := FileTree.resolve_of_locate hroot
  have hentries := hnames.at? hplace
  have hbelow := FileTree.listingsBelow_ne_nil_iff hentries
  have hmem (f : MetadataPlace) :
      f ∈ tree.metadataPlaces root entries ↔ f.LiesBelow tree root entries :=
    FileTree.mem_metadataPlaces_iff hentries
  refine ⟨_, hlimits.load_locationPath hnames hroot, ?_, fun hlink hnone => ?_,
    fun hlink hsome => ?_⟩
  · rw [hlimits.load_agrees_iff hnames hroot, hbelow]
    simp only [hmem, hlimits.liesBelow_iff hnames hresolve hplace]
  · have hnil : FileNode.listingsBelow entries = [] := by
      by_contra hne
      obtain ⟨name, inner, hlookup⟩ := hbelow.1 hne
      exact hnone name inner hlookup
    rw [RuleSet.load_of_endsInLink hnames hroot hlink, if_pos hnil]
  · refine ⟨(tree.metadataPlaces root entries).filter (·.directory ≠ []), ?_,
      (FileTree.pairwise_metadataPlaces hentries).filter _, fun f => ?_⟩
    · rw [RuleSet.load_of_endsInLink hnames hroot hlink, if_neg (hbelow.2 hsome),
        ← Loading.run_eq_uncached]
    · rw [List.mem_filter, hmem, decide_eq_true_iff]

end

namespace LinkTo

/-- A directory, and a link to it beside it. -/
def tree (entries : List (RawText × FileNode)) : FileTree where
  root := .directory [("l", .link ⟨"p"⟩), ("p", .directory entries)]
  workingDirectory := ⟨"/"⟩

variable {entries : List (RawText × FileNode)}

/-- No directory of the tree has a name twice. -/
theorem wellNamed_tree (h : (FileNode.directory entries).WellNamed) :
    (tree entries).root.WellNamed := by
  have hlink : (FileNode.link ⟨"p"⟩).WellNamed := by
    intro place inner hinner
    cases place <;> cases hinner
  have hnames : IsEntryName "l" ∧ IsEntryName "p" := by decide
  have hnodup : (["l", "p"] : Location).Nodup := by decide
  exact FileNode.wellNamed_directory_iff.2 ⟨hnodup, List.forall_mem_cons.2
    ⟨⟨hnames.1, hlink⟩, List.forall_mem_singleton.2 ⟨hnames.2, h⟩⟩⟩

/-- The path of the link is looked up by its only name. -/
theorem locate_of_leadsTo {followLast : Bool} {place : Location} {node : FileNode}
    (h : (tree entries).root.LeadsTo followLast linkLimit [] ["l"] place)
    (hat : (tree entries).root.at? place = some node) :
    (tree entries).locate followLast ⟨"/l"⟩ = .ok (place, node) := by
  have hpieces : ((⟨"/"⟩ : Path).absolute ⟨"/l"⟩).pieces = (["l"] : Location) := by decide
  rw [← hpieces] at h
  exact FileTree.locate_eq_ok_iff.2
    ⟨by decide, FileTree.resolve_eq_ok_iff.2 ⟨by decide, by decide, h⟩, hat⟩

/-- The link leads to the directory. -/
theorem locate_link : (tree entries).locate true ⟨"/l"⟩ = .ok (["p"], .directory entries) :=
  locate_of_leadsTo (.link rfl (.place rfl)) rfl

/-- The path `/l` ends in a link. -/
theorem endsInLink : (tree entries).EndsInLink ⟨"/l"⟩ :=
  ⟨["l"], ⟨"p"⟩, locate_of_leadsTo (.place rfl) rfl⟩

/-- Not every path to a directory can be loaded from: where all metadata files are those of the
directory itself, a load from a link to it fails. -/
theorem not_load_agrees_with_canonical :
    ¬ ∀ (tree : FileTree) (root : Path) (place : Location) (entries : List (RawText × FileNode))
        (s : Selection), tree.root.WellNamed →
        tree.locate true root = .ok (place, .directory entries) →
          ∃ other, RuleSet.load tree s root = .ok other ∧
            ∃ set, RuleSet.load tree s (locationPath place) = .ok set ∧
              other.Agrees set root (locationPath place) := by
  intro h
  have hentries : (FileNode.directory Collision.entries).WellNamed := by
    have horderly : Shelf.Orderly Collision.files := by decide +kernel
    exact Shelf.wellNamed_entries horderly
  have hnames := wellNamed_tree hentries
  obtain ⟨other, hload, -⟩ := h _ _ _ _ .permissive hnames locate_link
  have hbelow : FileNode.listingsBelow Collision.entries = [] := by
    show [].mergeSort _ = []
    exact List.mergeSort_nil
  rw [RuleSet.load_of_endsInLink hnames locate_link endsInLink, if_pos hbelow] at hload
  cases hload

end LinkTo

namespace Nested

/-- The entries of the directory with another one in it. -/
def inner : List (RawText × FileNode) := branch.entries

/-- The metadata file of this directory. -/
def own : MetadataPlace := ⟨[], "m.json"⟩

/-- The metadata file of the directory in it. -/
def below : MetadataPlace := ⟨["b"], "m.json"⟩

/-- Two metadata files lie below the directory. -/
theorem eq_own_or_eq_below {tree : FileTree} {root : Path} {f : MetadataPlace}
    (h : f.LiesBelow tree root inner) : f = own ∨ f = below := by
  have hinner : (FileNode.directory inner).WellNamed := wellNamed_leaf_branch.2
  obtain ⟨node, hnode⟩ := Option.isSome_iff_exists.1 h.isSome_at?
  obtain ⟨holder, hholder, hlookup⟩ := FileNode.at?_append_singleton_eq_some_iff.1 hnode
  have hreached : (FileNode.directory inner).reached =
      [⟨[], inner⟩, ⟨["b"], leaf.entries⟩] := by
    rfl
  have hmem : (⟨f.directory, holder⟩ : Listing) ∈ (FileNode.directory inner).reached :=
    (FileNode.mem_reached_iff hinner).2 hholder
  have hname {l : List (RawText × FileNode)} (hl : l.lookup f.name = some node)
      (hkeys : ∀ e ∈ l, isMetadataName e.1 = true → e.1 = "m.json") : f.name = "m.json" := by
    obtain ⟨before, after, rfl, -⟩ := List.lookup_eq_some_iff.1 hl
    exact hkeys (f.name, node) (by simp) (isMetadataName_iff.2 h.named)
  rw [hreached, List.mem_cons, List.mem_singleton, Listing.mk.injEq, Listing.mk.injEq] at hmem
  rcases hmem with ⟨hdirectory, rfl⟩ | ⟨hdirectory, rfl⟩
  · exact .inl (MetadataPlace.ext hdirectory (hname hlookup (by decide +kernel)))
  · exact .inr (MetadataPlace.ext hdirectory (hname hlookup (by decide +kernel)))

/-- Both of them lie below it under its own path and under that of the link. -/
theorem liesBelow_own_below {root : Path} (h : root = ⟨"/l"⟩ ∨ root = ⟨"/p"⟩) :
    own.LiesBelow (LinkTo.tree inner) root inner ∧
      below.LiesBelow (LinkTo.tree inner) root inner := by
  have hnamed : ∃ text : String, ("m.json" : RawText) = text ∧ text.toList.head? ≠ some '.' ∧
      ".json".toList <:+ text.toList := ⟨"m.json", rfl, by decide, by decide⟩
  rcases h with rfl | rfl
  · exact ⟨⟨rfl, hnamed, _, _, rfl⟩, ⟨rfl, hnamed, _, _, rfl⟩⟩
  · exact ⟨⟨rfl, hnamed, _, _, rfl⟩, ⟨rfl, hnamed, _, _, rfl⟩⟩

/-- No path in the tree comes near a limit. -/
theorem withinLimits_inner : (LinkTo.tree inner).WithinLimits ⟨"/l"⟩ ["p"] inner := by
  have hresolve {p : Path} (place : Location)
      (h : (LinkTo.tree inner).resolve true p = .ok place) :
      (LinkTo.tree inner).resolve true p ≠ .error .tooManyLinks := by
    rw [h]
    exact nofun
  refine ⟨by decide, fun f hf => ?_, fun f hf => ?_, fun f hf => ?_, fun f hf rule hrule => ?_⟩
  · rcases eq_own_or_eq_below hf with rfl | rfl <;> decide
  · rcases eq_own_or_eq_below hf with rfl | rfl <;> decide
  · rcases eq_own_or_eq_below hf with rfl | rfl
    · exact hresolve ["p", "m.json"] rfl
    · exact hresolve ["p", "b", "m.json"] rfl
  · rcases eq_own_or_eq_below hf with rfl | rfl
    · obtain rfl := Except.ok.inj (Collision.ofBytes_metadata.1.symm.trans hrule)
      exact hresolve ["p", "x"] rfl
    · obtain rfl := Except.ok.inj (Collision.ofBytes_metadata.2.symm.trans hrule)
      exact hresolve ["p", "b", "x"] rfl

/-- The hypotheses of `load_agrees_with_canonical_iff` are satisfiable: a load from a link to
the directory with another one in it gives the one metadata file of the latter, and does not
agree with a load of the directory. -/
theorem load_agrees_with_canonical_iff_inner :
    (LinkTo.tree inner).root.WellNamed ∧
      (LinkTo.tree inner).locate true ⟨"/l"⟩ = .ok (["p"], .directory inner) ∧
      (LinkTo.tree inner).WithinLimits ⟨"/l"⟩ ["p"] inner ∧
      ∃ set, RuleSet.load (LinkTo.tree inner) .permissive ⟨"/p"⟩ = .ok set ∧
        (¬ ∃ other, RuleSet.load (LinkTo.tree inner) .permissive ⟨"/l"⟩ = .ok other ∧
          other.Agrees set ⟨"/l"⟩ ⟨"/p"⟩) ∧
        RuleSet.load (LinkTo.tree inner) .permissive ⟨"/l"⟩ =
          .ok (Loading.run (LinkTo.tree inner) .permissive
            [below.scanned (LinkTo.tree inner) ⟨"/l"⟩]).finish := by
  have hnames := LinkTo.wellNamed_tree wellNamed_leaf_branch.2
  obtain ⟨set, hset, hagrees, -, hlinked⟩ := load_agrees_with_canonical_iff hnames
    LinkTo.locate_link withinLimits_inner .permissive
  have hbelow : ∃ name entries, inner.lookup name = some (.directory entries) := ⟨"b", _, rfl⟩
  refine ⟨hnames, LinkTo.locate_link, withinLimits_inner, set, hset, fun h => ?_, ?_⟩
  · exact (hagrees.1 h LinkTo.endsInLink).2 own (liesBelow_own_below (.inr rfl)).1 rfl
  · obtain ⟨files, hload, hordered, hmem⟩ := hlinked LinkTo.endsInLink hbelow
    have hfiles : files = [below] := by
      refine eq_of_pairwise_of_mem_iff hordered (List.pairwise_singleton ..) fun f => ?_
      rw [hmem, List.mem_singleton]
      constructor
      · rintro ⟨hf, hne⟩
        exact (eq_own_or_eq_below hf).resolve_left fun h => hne (h ▸ rfl)
      · rintro rfl
        exact ⟨(liesBelow_own_below (.inl rfl)).2, by decide⟩
    rwa [hfiles] at hload

end Nested

end Rulebook
