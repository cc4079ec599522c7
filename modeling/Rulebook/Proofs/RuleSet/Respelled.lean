/-
# One directory under two paths

Specification §4.2 (Rule Repository Loader).

A load writes the path of its root in front of everything that it finds, and looks it up
there. What it finds does not depend on which path to a directory this is: a file is looked at
by its contents, and a body is kept under its canonical path. So the same files below a
directory, found under two paths to it, give the same rules and the same counts, and their
outcomes are alike (`FileTree.uncached_agrees`): the one difference is the path at which a
missing body was looked for.

Two paths to one directory may differ in how many links they take and in how long they are, and
the operating system bounds both. `FileTree.WithinLimits` says that a path to a directory and
the canonical path of the directory stay within these bounds, for the files that a load looks
up; then the same metadata files lie below both (`FileTree.WithinLimits.liesBelow_iff`).
-/

import Rulebook.Proofs.FileTree.Canonical
import Rulebook.Proofs.RuleSet.Order

namespace Rulebook

/-! ### Outcomes that are alike -/

/-- Two outcomes differ at most in the path at which a body was looked for. -/
inductive LoadStatus.Alike : LoadStatus → LoadStatus → Prop
  | refl (status : LoadStatus) : Alike status status
  | body (p p' : Path) (e : FileError) : Alike (.failed (.body p e)) (.failed (.body p' e))

/-- Two computations fail for the same want of a body, or are the same. -/
inductive AlikeLoads {α : Type} : Except LoadStatus α → Except LoadStatus α → Prop
  | refl (result : Except LoadStatus α) : AlikeLoads result result
  | body (p p' : Path) (e : FileError) :
      AlikeLoads (.error (.failed (.body p e))) (.error (.failed (.body p' e)))

namespace AlikeLoads

variable {α : Type} {a b : Except LoadStatus α}

/-- Of two loads that are alike both succeed or neither does. -/
theorem isOk_eq (h : AlikeLoads a b) : a.isOk = b.isOk := by
  cases h with
  | refl => rfl
  | body => rfl

/-- Loads that are alike give the same. -/
theorem toOption_eq (h : AlikeLoads a b) : a.toOption = b.toOption := by
  cases h with
  | refl => rfl
  | body => rfl

end AlikeLoads

/-- Two metadata files hold the same and name the same body file, wherever they are. -/
structure FileTree.SameSources (tree : FileTree) (f g : ScannedFile) : Prop where
  parsed_eq : f.parsed = g.parsed
  canonicalize_eq : ∀ rule, f.parsed = .ok rule →
    tree.canonicalize (f.directory.join ⟨rule.file⟩) =
      tree.canonicalize (g.directory.join ⟨rule.file⟩)

namespace FileTree.SameSources

variable {tree : FileTree} {s : Selection} {f g : ScannedFile}

/-- The sources of files with the same sources are alike. -/
theorem source_alike (h : tree.SameSources f g) :
    AlikeLoads (tree.source s f.directory f.parsed) (tree.source s g.directory g.parsed) := by
  rw [← h.parsed_eq]
  rcases hpick : s.pick f.parsed with status | rule
  · simp only [source, hpick]
    exact .refl _
  · have hcanon := h.canonicalize_eq rule (Selection.pick_eq_ok_iff.1 hpick).1
    rcases hbody : tree.canonicalize (f.directory.join ⟨rule.file⟩) with e | bodyPath
    · simp only [source, hpick, ← hcanon, hbody]
      exact .body ..
    · simp only [source, hpick, ← hcanon, hbody]
      exact .refl _

/-- The rules of files with the same sources are loaded alike. -/
theorem loadRule_alike (h : tree.SameSources f g) :
    AlikeLoads (tree.loadRule s f.directory f.parsed) (tree.loadRule s g.directory g.parsed) := by
  have hsource := h.source_alike (s := s)
  unfold FileTree.loadRule
  generalize tree.source s f.directory f.parsed = a at hsource ⊢
  generalize tree.source s g.directory g.parsed = b at hsource ⊢
  cases hsource with
  | refl => exact .refl _
  | body p p' e => exact .body p p' e

/-- **The same source gives outcomes that are alike.** -/
theorem status_alike (h : tree.SameSources f g) :
    (tree.result s f).status.Alike (tree.result s g).status := by
  have hload := h.loadRule_alike (s := s)
  show (tree.outcome s f.directory f.parsed).Alike (tree.outcome s g.directory g.parsed)
  unfold FileTree.outcome
  generalize tree.loadRule s f.directory f.parsed = a at hload ⊢
  generalize tree.loadRule s g.directory g.parsed = b at hload ⊢
  cases hload with
  | refl => exact .refl _
  | body p p' e => exact .body p p' e

/-- Files with the same sources have the same registration. -/
theorem registration?_eq (h : tree.SameSources f g) :
    tree.registration? s f = tree.registration? s g := by
  rw [registration?, registration?, h.loadRule_alike.toOption_eq]

/-- Files with the same sources have the same body. -/
theorem bodyEntry?_eq (h : tree.SameSources f g) :
    tree.bodyEntry? s f = tree.bodyEntry? s g := by
  rw [FileTree.bodyEntry?, FileTree.bodyEntry?, h.source_alike.toOption_eq]

end FileTree.SameSources

/-- Two rule sets agree, where files that lie below two paths correspond: they have the same
rules and the same counts, and the outcomes of each file are alike. -/
structure RuleSet.Agrees (set other : RuleSet) (root root' : Path) : Prop where
  rules_eq : set.rules = other.rules
  stats_eq : set.stats = other.stats
  results_alike : List.Forall₂ (fun r r' => r.status.Alike r'.status ∧
    ∃ f : MetadataPlace, r.path = f.path root ∧ r'.path = f.path root') set.results other.results

/-- **The same files under two paths give rule sets that agree.** -/
theorem FileTree.uncached_agrees {tree : FileTree} {root root' : Path}
    {files : List MetadataPlace} (s : Selection)
    (h : ∀ f ∈ files, tree.SameSources (f.scanned tree root) (f.scanned tree root')) :
    (Loading.uncached tree s (files.map (·.scanned tree root))).finish.Agrees
      (Loading.uncached tree s (files.map (·.scanned tree root'))).finish root root' := by
  have hregistrations : (files.map (·.scanned tree root)).filterMap (tree.registration? s) =
      (files.map (·.scanned tree root')).filterMap (tree.registration? s) := by
    rw [List.filterMap_map, List.filterMap_map]
    exact List.filterMap_congr fun f hf => (h f hf).registration?_eq
  have hbodies : (files.map (·.scanned tree root)).filterMap (tree.bodyEntry? s) =
      (files.map (·.scanned tree root')).filterMap (tree.bodyEntry? s) := by
    rw [List.filterMap_map, List.filterMap_map]
    exact List.filterMap_congr fun f hf => (h f hf).bodyEntry?_eq
  have hdescriptors : (files.map (·.scanned tree root)).countP (fun f => (s.pick f.parsed).isOk) =
      (files.map (·.scanned tree root')).countP fun f => (s.pick f.parsed).isOk := by
    rw [List.countP_map, List.countP_map]
    refine List.countP_congr fun f hf => ?_
    simp only [Function.comp_apply, (h f hf).parsed_eq]
  have hregistered : (files.map (·.scanned tree root)).countP
        (fun f => (tree.loadRule s f.directory f.parsed).isOk) =
      (files.map (·.scanned tree root')).countP
        fun f => (tree.loadRule s f.directory f.parsed).isOk := by
    rw [List.countP_map, List.countP_map]
    refine List.countP_congr fun f hf => ?_
    simp only [Function.comp_apply, (h f hf).loadRule_alike.isOk_eq]
  refine ⟨?_, ?_, ?_⟩
  · simp only [Loading.finish, Loading.uncached, hregistrations]
  · simp only [Loading.finish, Loading.uncached, hregistrations, hbodies, hdescriptors,
      hregistered, List.length_map]
  · show List.Forall₂ _ ((files.map _).map (tree.result s)) ((files.map _).map (tree.result s))
    rw [List.map_map, List.map_map, List.forall₂_map_left_iff, List.forall₂_map_right_iff,
      List.forall₂_same]
    exact fun f hf => ⟨(h f hf).status_alike, f, rfl, rfl⟩

/-! ### The limits of the operating system -/

/-- A path to a directory and the canonical path of the directory stay within the limits for
everything that a load looks up: the paths of metadata files are short enough, and through the
first path neither these files nor the body files that they name take too many links. -/
structure FileTree.WithinLimits (tree : FileTree) (root : Path) (place : Location)
    (entries : List (RawText × FileNode)) : Prop where
  place_short : (locationPath place).text.bytes.length < pathLimit
  canonical_short : ∀ f : MetadataPlace, f.LiesBelow tree root entries →
    (f.path (locationPath place)).text.bytes.length < pathLimit
  root_short : ∀ f : MetadataPlace, f.LiesBelow tree (locationPath place) entries →
    (f.path root).text.bytes.length < pathLimit
  metadata_links : ∀ f : MetadataPlace, f.LiesBelow tree (locationPath place) entries →
    tree.resolve true (f.path root) ≠ .error .tooManyLinks
  body_links : ∀ f : MetadataPlace, f.LiesBelow tree (locationPath place) entries →
    ∀ rule, (f.scanned tree (locationPath place)).parsed = .ok rule →
      tree.resolve true ((root.descend f.directory).join ⟨rule.file⟩) ≠ .error .tooManyLinks

namespace FileTree

variable {tree : FileTree} {root : Path} {place : Location} {entries : List (RawText × FileNode)}
  {f : MetadataPlace}

/-- What is joined to the path of a directory below leads where it leads from there by the
canonical path. -/
theorem resolve_descend_join_eq (hnames : tree.root.WellNamed)
    (hroot : tree.resolve true root = .ok place)
    (hplace : tree.root.at? place = some (.directory entries)) {names : Location}
    {inner : List (RawText × FileNode)}
    (hinner : (FileNode.directory entries).at? names = some (.directory inner)) {q : Path}
    (hlinks : tree.resolve true ((root.descend names).join q) ≠ .error .tooManyLinks) :
    tree.resolve true ((root.descend names).join q) =
      tree.resolve true (((locationPath place).descend names).join q) := by
  have hentries := hnames.at? hplace
  have hdescend : tree.resolve true (root.descend names) = .ok (place ++ names) :=
    resolve_descend hroot hplace hentries hinner (by simp)
  have hat : tree.root.at? (place ++ names) = some (.directory inner) := by
    rw [FileNode.at?_append, hplace]
    exact hinner
  rw [Path.descend_locationPath (hnames.isEntryName hplace) (hentries.isEntryName hinner)]
  exact resolve_join_eq hnames hdescend hat hlinks

namespace WithinLimits

/-- A metadata file is found under both paths or under none. -/
theorem exists_locate_path (h : tree.WithinLimits root place entries)
    (hnames : tree.root.WellNamed) (hroot : tree.resolve true root = .ok place)
    (hplace : tree.root.at? place = some (.directory entries))
    (hlies : f.LiesBelow tree root entries ∨ f.LiesBelow tree (locationPath place) entries) :
    ∃ found bytes, tree.locate true (f.path root) = .ok (found, .file bytes) ∧
      tree.locate true (f.path (locationPath place)) = .ok (found, .file bytes) := by
  have hsome : ((FileNode.directory entries).at? (f.directory ++ [f.name])).isSome := by
    rcases hlies with hlies | hlies <;> exact hlies.isSome_at?
  obtain ⟨node, hnode⟩ := Option.isSome_iff_exists.1 hsome
  obtain ⟨inner, hinner, -⟩ := FileNode.at?_append_singleton_eq_some_iff.1 hnode
  rcases hlies with hlies | hlies
  · obtain ⟨found, bytes, hlocate⟩ := hlies.regular
    obtain ⟨-, hresolve, hat⟩ := locate_eq_ok_iff.1 hlocate
    have hlinks : tree.resolve true (f.path root) ≠ .error .tooManyLinks := by
      rw [hresolve]
      exact nofun
    have hsame := resolve_descend_join_eq hnames hroot hplace hinner hlinks
    rw [← MetadataPlace.path, ← MetadataPlace.path, hresolve] at hsame
    exact ⟨found, bytes, hlocate,
      locate_eq_ok_iff.2 ⟨h.canonical_short f hlies, hsame.symm, hat⟩⟩
  · obtain ⟨found, bytes, hlocate⟩ := hlies.regular
    obtain ⟨-, hresolve, hat⟩ := locate_eq_ok_iff.1 hlocate
    have hsame := resolve_descend_join_eq hnames hroot hplace hinner (h.metadata_links f hlies)
    rw [← MetadataPlace.path, ← MetadataPlace.path, hresolve] at hsame
    exact ⟨found, bytes, locate_eq_ok_iff.2 ⟨h.root_short f hlies, hsame, hat⟩, hlocate⟩

/-- **The same metadata files lie below both paths.** -/
theorem liesBelow_iff (h : tree.WithinLimits root place entries)
    (hnames : tree.root.WellNamed) (hroot : tree.resolve true root = .ok place)
    (hplace : tree.root.at? place = some (.directory entries)) :
    f.LiesBelow tree root entries ↔ f.LiesBelow tree (locationPath place) entries := by
  constructor
  · intro hlies
    obtain ⟨found, bytes, -, hlocate⟩ := h.exists_locate_path hnames hroot hplace (.inl hlies)
    exact ⟨hlies.isSome_at?, hlies.named, found, bytes, hlocate⟩
  · intro hlies
    obtain ⟨found, bytes, hlocate, -⟩ := h.exists_locate_path hnames hroot hplace (.inr hlies)
    exact ⟨hlies.isSome_at?, hlies.named, found, bytes, hlocate⟩

/-- **Under both paths a metadata file holds the same**, and names the same body file. -/
theorem sameSources (h : tree.WithinLimits root place entries) (hnames : tree.root.WellNamed)
    (hroot : tree.resolve true root = .ok place)
    (hplace : tree.root.at? place = some (.directory entries))
    (hlies : f.LiesBelow tree (locationPath place) entries) :
    tree.SameSources (f.scanned tree root) (f.scanned tree (locationPath place)) := by
  obtain ⟨found, bytes, hlocate, hlocate'⟩ :=
    h.exists_locate_path hnames hroot hplace (.inr hlies)
  have hparsed : (f.scanned tree root).parsed = (f.scanned tree (locationPath place)).parsed := by
    rw [MetadataPlace.scanned, MetadataPlace.scanned,
      regular?_eq_some_iff.2 ⟨found, hlocate⟩, regular?_eq_some_iff.2 ⟨found, hlocate'⟩]
  refine ⟨hparsed, fun rule hrule => ?_⟩
  rw [hparsed] at hrule
  obtain ⟨node, hnode⟩ := Option.isSome_iff_exists.1 hlies.isSome_at?
  obtain ⟨inner, hinner, -⟩ := FileNode.at?_append_singleton_eq_some_iff.1 hnode
  exact congrArg (Except.map locationPath)
    (resolve_descend_join_eq hnames hroot hplace hinner (h.body_links f hlies rule hrule))

/-- The places of the metadata files are the same, in the same order. -/
theorem metadataPlaces_eq (h : tree.WithinLimits root place entries)
    (hnames : tree.root.WellNamed) (hroot : tree.resolve true root = .ok place)
    (hplace : tree.root.at? place = some (.directory entries)) :
    tree.metadataPlaces root entries = tree.metadataPlaces (locationPath place) entries := by
  have hentries := hnames.at? hplace
  refine eq_of_pairwise_of_mem_iff (pairwise_metadataPlaces hentries)
    (pairwise_metadataPlaces hentries) fun f => ?_
  rw [mem_metadataPlaces_iff hentries, mem_metadataPlaces_iff hentries,
    h.liesBelow_iff hnames hroot hplace]

end WithinLimits

end FileTree

end Rulebook
