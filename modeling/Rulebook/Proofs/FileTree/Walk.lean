/-
# What a walk meets

Specification §4.2 (Rule Repository Loader).

A walk from a directory meets what lies in and below it. Said by names instead of paths
(`FileNode.reached`), these are the directories that are looked up name by name
(`FileNode.mem_reached_iff`): no link is on the way to them. In a tree in which no directory
has a name twice (`FileNode.WellNamed`), no place is met twice (`FileNode.nodup_names_reached`).

The order of the walk is the order of the names that lead down, compared one by one
(`FileTree.walk_eq`), since the path from which the walk starts is common to all of them.
It is strict, so there is just one order that a walk of a tree can have.
-/

import Rulebook.FileTree.Walk
import Rulebook.Proofs.Path

namespace Rulebook

/-! ### Nodes by their locations -/

/-- What holds of a directory if it holds of its entries, and of everything else, holds of
every node. -/
@[induction_eliminator]
theorem FileNode.induction {motive : FileNode → Prop} (file : ∀ bytes, motive (.file bytes))
    (device : motive .device) (link : ∀ target, motive (.link target))
    (directory : ∀ entries, (∀ e ∈ entries, motive e.2) → motive (.directory entries))
    (node : FileNode) : motive node := by
  refine @FileNode.rec motive (fun entries => ∀ e ∈ entries, motive e.2) (fun e => motive e.2)
    file device link directory ?_ ?_ (fun _ _ h => h) node
  · simp
  · intro e rest he hrest
    exact List.forall_mem_cons.2 ⟨he, hrest⟩

/-- In a list without a key twice, a look-up finds exactly what the list has. -/
theorem lookup_eq_some_iff_mem {κ : Type u} {α : Type v} [BEq κ] [LawfulBEq κ]
    {l : List (κ × α)} (h : (l.map (·.1)).Nodup)
    {k : κ} {v : α} : l.lookup k = some v ↔ (k, v) ∈ l := by
  rw [List.lookup_eq_some_iff]
  constructor
  · rintro ⟨before, after, rfl, -⟩
    simp
  · intro hmem
    obtain ⟨before, after, rfl⟩ := List.append_of_mem hmem
    refine ⟨before, after, rfl, fun e he => ?_⟩
    rw [List.map_append, List.nodup_append] at h
    exact bne_iff_ne.2 fun hk => h.2.2 _ (List.mem_map_of_mem he) k (by simp) hk.symm

namespace FileNode

/-- Every directory in and below a node has entries with different names that can stand
there. -/
def WellNamed (node : FileNode) : Prop :=
  ∀ place entries, node.at? place = some (.directory entries) →
    (entries.map (·.1)).Nodup ∧ ∀ e ∈ entries, IsEntryName e.1

/-- A location is looked up name by name. -/
theorem at?_append (node : FileNode) (place names : Location) :
    node.at? (place ++ names) = (node.at? place).bind (·.at? names) := by
  induction place generalizing node with
  | nil =>
    rw [at?]
    rfl
  | cons name rest ih =>
    cases node with
    | file bytes => rfl
    | device => rfl
    | link target => rfl
    | directory entries =>
      rw [List.cons_append, at?, at?]
      rcases entries.lookup name with _ | inner
      · rfl
      · exact ih inner

/-- The first name is that of an entry of the directory. -/
theorem at?_directory_cons (entries : List (RawText × FileNode)) (name : RawText)
    (rest : Location) :
    (directory entries).at? (name :: rest) = (entries.lookup name).bind (·.at? rest) := by
  rw [at?]
  rcases entries.lookup name with _ | node <;> rfl

/-- What lies at some names in a directory lies at the others in an entry with the first name. -/
theorem exists_mem_of_isSome_at? {entries : List (RawText × FileNode)} {name : RawText}
    {names : Location} (h : ((FileNode.directory entries).at? (name :: names)).isSome) :
    ∃ node, (name, node) ∈ entries ∧ (node.at? names).isSome := by
  rw [at?_directory_cons, Option.isSome_bind, Option.any_eq_true] at h
  obtain ⟨node, hlookup, hsome⟩ := h
  obtain ⟨before, after, hentries, -⟩ := List.lookup_eq_some_iff.1 hlookup
  exact ⟨node, hentries ▸ by simp, hsome⟩

/-- Nothing lies below a file. -/
theorem not_isSome_at?_file (bytes : List UInt8) (names : Location) (name : RawText) :
    ¬ ((file bytes).at? (names ++ [name])).isSome := by
  cases names <;> exact Bool.false_ne_true

/-- What has a location has the last name in the directory at the location before it. -/
theorem at?_append_singleton_eq_some_iff {node inner : FileNode} {place : Location}
    {name : RawText} :
    node.at? (place ++ [name]) = some inner ↔
      ∃ entries, node.at? place = some (.directory entries) ∧ entries.lookup name = some inner := by
  rw [at?_append, Option.bind_eq_some_iff]
  constructor
  · rintro ⟨holder, hholder, hinner⟩
    cases holder with
    | file bytes => cases hinner
    | device => cases hinner
    | link target => cases hinner
    | directory entries =>
      rw [at?_directory_cons, Option.bind_eq_some_iff] at hinner
      obtain ⟨found, hfound, hinner⟩ := hinner
      obtain rfl := Option.some.inj hinner
      exact ⟨entries, hholder, hfound⟩
  · rintro ⟨entries, hentries, hlookup⟩
    refine ⟨_, hentries, ?_⟩
    rw [at?_directory_cons, hlookup]
    rfl

/-- What lies in a well-named node is well-named. -/
theorem WellNamed.at? {node inner : FileNode} (h : node.WellNamed) {place : Location}
    (hinner : node.at? place = some inner) : inner.WellNamed := by
  intro names entries hentries
  refine h (place ++ names) entries ?_
  rw [at?_append, hinner]
  exact hentries

/-- The entries of a well-named directory are well-named. -/
theorem WellNamed.entry {entries : List (RawText × FileNode)} (h : (directory entries).WellNamed)
    {e : RawText × FileNode} (he : e ∈ entries) : e.2.WellNamed := by
  have hfound : (directory entries).at? [e.1] = some e.2 := by
    rw [at?_directory_cons, (lookup_eq_some_iff_mem (h [] entries rfl).1).2 he]
    rfl
  exact h.at? hfound

/-- A directory is well-named if its names are, no name occurs twice, and its entries are
well-named. -/
theorem wellNamed_directory_iff {entries : List (RawText × FileNode)} :
    (directory entries).WellNamed ↔
      (entries.map (·.1)).Nodup ∧ ∀ e ∈ entries, IsEntryName e.1 ∧ e.2.WellNamed := by
  constructor
  · intro h
    obtain ⟨hnodup, hnames⟩ := h [] entries rfl
    exact ⟨hnodup, fun e he => ⟨hnames e he, h.entry he⟩⟩
  · rintro ⟨hnodup, hentries⟩ place inner hinner
    cases place with
    | nil =>
      obtain rfl := directory.inj (Option.some.inj hinner)
      exact ⟨hnodup, fun e he => (hentries e he).1⟩
    | cons name rest =>
      rw [at?_directory_cons, Option.bind_eq_some_iff] at hinner
      obtain ⟨node, hnode, hinner⟩ := hinner
      exact (hentries _ ((lookup_eq_some_iff_mem hnodup).1 hnode)).2 rest inner hinner

/-- A directory with a single entry is well-named if the entry is. -/
theorem wellNamed_singleton {name : RawText} {node : FileNode} (hname : IsEntryName name)
    (hnode : node.WellNamed) : (directory [(name, node)]).WellNamed :=
  wellNamed_directory_iff.2
    ⟨List.nodup_singleton _, List.forall_mem_singleton.2 ⟨hname, hnode⟩⟩

/-- A file is well-named. -/
theorem WellNamed.file (bytes : List UInt8) : (FileNode.file bytes).WellNamed := by
  intro place entries h
  cases place with
  | nil => cases h
  | cons name rest => cases h

/-- The names that lead to a node can stand in directories. -/
theorem WellNamed.isEntryName {node inner : FileNode} (h : node.WellNamed) {place : Location}
    (hinner : node.at? place = some inner) : ∀ name ∈ place, IsEntryName name := by
  induction place generalizing node with
  | nil => simp
  | cons name rest ih =>
    cases node with
    | file bytes => cases hinner
    | device => cases hinner
    | link target => cases hinner
    | directory entries =>
      rw [at?_directory_cons, Option.bind_eq_some_iff] at hinner
      obtain ⟨node, hnode, hinner⟩ := hinner
      obtain ⟨hnodup, hnames⟩ := h [] entries rfl
      have hmem := (lookup_eq_some_iff_mem hnodup).1 hnode
      exact List.forall_mem_cons.2 ⟨hnames _ hmem, ih (h.entry hmem) hinner⟩

end FileNode

/-! ### The directories of a walk -/

/-- A directory with the names that lead to it. -/
@[ext]
structure Listing where
  names : Location
  entries : List (RawText × FileNode)

namespace Listing

/-- The same directory, looked at from outside the entry that it lies in. -/
def inEntry (name : RawText) (d : Listing) : Listing := ⟨name :: d.names, d.entries⟩

/-- The same directory at its path, where another path leads to the start of the names. -/
def directory (root : Path) (d : Listing) : Directory := ⟨root.descend d.names, d.entries⟩

end Listing

mutual

/-- The directories in and below a node. -/
def FileNode.reached : FileNode → List Listing
  | .directory entries => ⟨[], entries⟩ :: reachedInEntries entries
  | .file _ => []
  | .device => []
  | .link _ => []

/-- The directories in the entries of a directory. -/
def reachedInEntries : List (RawText × FileNode) → List Listing
  | [] => []
  | (name, node) :: rest => node.reached.map (.inEntry name) ++ reachedInEntries rest

end

/-- What is reached in entries is reached entry by entry. -/
theorem reachedInEntries_eq_flatMap (entries : List (RawText × FileNode)) :
    reachedInEntries entries = entries.flatMap fun e => e.2.reached.map (.inEntry e.1) := by
  induction entries with
  | nil => rfl
  | cons e rest ih => rw [reachedInEntries, ih, List.flatMap_cons]

/-- The directories below a path are those of its entries, one after the other. -/
theorem directoriesBelow_eq_flatMap (p : Path) (entries : List (RawText × FileNode)) :
    directoriesBelow p entries = entries.flatMap fun e => e.2.directories (p.join ⟨e.1⟩) := by
  induction entries with
  | nil => rfl
  | cons e rest ih => rw [directoriesBelow, ih, List.flatMap_cons]

namespace FileNode

/-- The directories of a walk are what is reached, with their paths. -/
theorem directories_eq_map_reached (p : Path) (node : FileNode) :
    node.directories p = node.reached.map (·.directory p) := by
  induction node generalizing p with
  | file bytes => rfl
  | device => rfl
  | link target => rfl
  | directory entries ih =>
    rw [directories, reached, directoriesBelow_eq_flatMap, reachedInEntries_eq_flatMap,
      List.map_cons, List.map_flatMap]
    refine congrArg₂ _ rfl (List.flatMap_congr fun e he => ?_)
    rw [ih e he, List.map_map]
    rfl

/-- **What a walk meets is what is looked up by names.** -/
theorem mem_reached_iff {node : FileNode} (h : node.WellNamed) {d : Listing} :
    d ∈ node.reached ↔ node.at? d.names = some (.directory d.entries) := by
  induction node generalizing d with
  | file bytes => rcases d with ⟨_ | _, _⟩ <;> simp [reached, at?]
  | device => rcases d with ⟨_ | _, _⟩ <;> simp [reached, at?]
  | link target => rcases d with ⟨_ | _, _⟩ <;> simp [reached, at?]
  | directory entries ih =>
    have hnodup := (h [] entries rfl).1
    rw [reached, reachedInEntries_eq_flatMap, List.mem_cons, List.mem_flatMap]
    rcases d with ⟨_ | ⟨name, rest⟩, inner⟩
    · simp [at?, Listing.inEntry, eq_comm]
    · simp only [at?_directory_cons, Option.bind_eq_some_iff, lookup_eq_some_iff_mem hnodup,
        List.mem_map, Listing.inEntry, Listing.mk.injEq, reduceCtorEq, false_and, false_or,
        List.cons.injEq]
      constructor
      · rintro ⟨⟨_, node⟩, he, d, hd, ⟨rfl, rfl⟩, rfl⟩
        exact ⟨node, he, (ih _ he (h.entry he)).1 hd⟩
      · rintro ⟨node, he, hinner⟩
        exact ⟨(name, node), he, ⟨rest, inner⟩, (ih _ he (h.entry he)).2 hinner, ⟨rfl, rfl⟩, rfl⟩

/-- **No place is met twice.** -/
theorem nodup_names_reached {node : FileNode} (h : node.WellNamed) :
    (node.reached.map (·.names)).Nodup := by
  induction node with
  | file bytes => exact List.nodup_nil
  | device => exact List.nodup_nil
  | link target => exact List.nodup_nil
  | directory entries ih =>
    rw [reached, reachedInEntries_eq_flatMap, List.map_cons, List.map_flatMap, List.nodup_cons,
      List.nodup_flatMap]
    refine ⟨by simp [Listing.inEntry], fun e he => ?_, ?_⟩
    · rw [List.map_map]
      have hinner := (ih e he (h.entry he)).map (f := (e.1 :: ·)) fun _ _ h => (List.cons.inj h).2
      rwa [List.map_map] at hinner
    · -- Places below different entries differ in their first names.
      refine (List.pairwise_map.1 (h [] entries rfl).1).imp fun {a b} hne => ?_
      simp only [Function.onFun, List.map_map, List.disjoint_left, List.mem_map,
        Function.comp_apply]
      rintro _ ⟨d, -, rfl⟩ ⟨d', -, heq⟩
      exact hne (List.cons.inj heq).1.symm

/-- The directories in and below a node, sorted by the names that lead to them. -/
def listings (node : FileNode) : List Listing :=
  node.reached.mergeSort fun a b => ¬ b.names < a.names

end FileNode

/-- Keys of a linear order can be sorted by. -/
theorem trans_and_total_of_key {α : Type u} {β : Type v} [LinearOrder β] {key : α → β}
    {le : α → α → Bool} (hle : ∀ a b, le a b = true ↔ ¬ key b < key a) :
    (∀ a b c, le a b = true → le b c = true → le a c = true) ∧
      ∀ a b, (le a b || le b a) = true := by
  refine ⟨fun a b c hab hbc => ?_, fun a b => ?_⟩
  · rw [hle, not_lt] at *
    exact hab.trans hbc
  · rw [Bool.or_eq_true, hle, hle, not_lt, not_lt]
    exact le_total ..

/-- Sorted by keys of which none occurs twice, a list is strictly sorted. -/
theorem pairwise_lt_mergeSort {α : Type u} {β : Type v} [LinearOrder β] {key : α → β}
    {le : α → α → Bool} (hle : ∀ a b, le a b = true ↔ ¬ key b < key a) {l : List α}
    (h : (l.map key).Nodup) : (l.mergeSort le).Pairwise fun a b => key a < key b := by
  have hsorted : (l.mergeSort le).Pairwise fun a b => le a b = true :=
    List.pairwise_mergeSort (trans_and_total_of_key hle).1 (trans_and_total_of_key hle).2 l
  have hne : (l.mergeSort le).Pairwise fun a b => key a ≠ key b :=
    List.pairwise_map.1 ((((l.mergeSort_perm le).map key).nodup_iff).2 h)
  exact hsorted.imp₂ (fun a b hab hne => lt_of_le_of_ne (not_lt.1 ((hle a b).1 hab)) hne) hne

namespace FileNode

/-- The directories that are listed are those at their names. -/
theorem mem_listings_iff {node : FileNode} (h : node.WellNamed) {d : Listing} :
    d ∈ node.listings ↔ node.at? d.names = some (.directory d.entries) := by
  rw [listings, List.mem_mergeSort, mem_reached_iff h]

/-- The directories below some entries, sorted by the names that lead to them. -/
def listingsBelow (entries : List (RawText × FileNode)) : List Listing :=
  (reachedInEntries entries).mergeSort fun a b => ¬ b.names < a.names

/-- A directory comes before all that lie below it. -/
theorem listings_directory (entries : List (RawText × FileNode)) :
    (directory entries).listings = ⟨[], entries⟩ :: listingsBelow entries := by
  obtain ⟨htrans, htotal⟩ := trans_and_total_of_key
    (fun (a b : Listing) => decide_eq_true_iff (p := ¬ b.names < a.names))
  obtain ⟨before, after, hsorted, hbelow, hbefore⟩ :=
    List.mergeSort_cons htrans htotal ⟨[], entries⟩ (reachedInEntries entries)
  -- Nothing comes before the empty list of names.
  rcases before with _ | ⟨d, rest⟩
  · rw [listings, reached, hsorted, listingsBelow, hbelow]
    rfl
  · have hd := hbefore d (by simp)
    simp at hd

/-- The directories that are listed below are those at some names. -/
theorem mem_listingsBelow_iff {entries : List (RawText × FileNode)}
    (h : (directory entries).WellNamed) {d : Listing} :
    d ∈ listingsBelow entries ↔
      d.names ≠ [] ∧ (directory entries).at? d.names = some (.directory d.entries) := by
  rw [← mem_listings_iff h, listings_directory, List.mem_cons]
  constructor
  · intro hd
    refine ⟨?_, .inr hd⟩
    rw [listingsBelow, List.mem_mergeSort, reachedInEntries_eq_flatMap] at hd
    obtain ⟨e, -, hinner⟩ := List.mem_flatMap.1 hd
    obtain ⟨inner, -, rfl⟩ := List.mem_map.1 hinner
    exact List.cons_ne_nil e.1 inner.names
  · rintro ⟨hne, rfl | hd⟩
    · exact absurd rfl hne
    · exact hd

/-- Directories are listed in the order of their names. -/
theorem pairwise_listings {node : FileNode} (h : node.WellNamed) :
    node.listings.Pairwise fun a b => a.names < b.names :=
  pairwise_lt_mergeSort (fun _ _ => decide_eq_true_iff) (nodup_names_reached h)

end FileNode

namespace FileTree

variable {tree : FileTree} {root : Path} {place : Location}

/-- A path that is looked up leads to a location, at which the node lies. -/
theorem resolve_of_locate {followLast : Bool} {node : FileNode}
    (h : tree.locate followLast root = .ok (place, node)) :
    tree.resolve followLast root = .ok place ∧ tree.root.at? place = some node := by
  unfold locate at h
  split at h
  · cases h
  · split at h
    · cases h
    · rename_i found hresolve
      split at h
      · rename_i hnode
        obtain ⟨rfl, rfl⟩ := Prod.mk.inj (Except.ok.inj h)
        exact ⟨hresolve, hnode⟩
      · cases h

/-- A path that leads anywhere is not empty. -/
theorem text_ne_empty_of_resolve {followLast : Bool}
    (h : tree.resolve followLast root = .ok place) : root.text ≠ "" := by
  intro hempty
  have hnul : root.hasNul = false := by
    rw [Path.hasNul, hempty]
    rfl
  rw [resolve, hnul, if_neg Bool.false_ne_true, if_pos hempty] at h
  cases h

/-- The order of the paths of directories is that of the names that lead there. -/
theorem map_directory_mergeSort (htext : root.text ≠ "") {l : List Listing}
    (h : ∀ d ∈ l, ∀ name ∈ d.names, IsEntryName name) :
    (l.mergeSort fun a b => ¬ b.names < a.names).map (·.directory root) =
      (l.map (·.directory root)).mergeSort fun a b => a.path.le b.path := by
  refine List.map_mergeSort fun a ha b hb => ?_
  rw [Bool.eq_iff_iff, decide_eq_true_iff]
  exact (Path.le_descend_iff htext (h a ha) (h b hb)).symm

/-- **The order of a walk**: that of the names that lead from its root to the directories. -/
theorem walk_eq (hnames : tree.root.WellNamed) {entries : List (RawText × FileNode)}
    (hroot : tree.locate false root = .ok (place, .directory entries)) :
    tree.walk root = .ok ((FileNode.directory entries).listings.map (·.directory root)) := by
  obtain ⟨hresolve, hat⟩ := resolve_of_locate hroot
  have hentries := hnames.at? hat
  have hdirectories : tree.directories root =
      .ok ((FileNode.directory entries).reached.map (·.directory root)) := by
    rw [directories, hroot]
    exact congrArg Except.ok (FileNode.directories_eq_map_reached root (.directory entries))
  rw [walk, hdirectories, FileNode.listings, map_directory_mergeSort
    (text_ne_empty_of_resolve hresolve) fun d hd =>
      hentries.isEntryName ((FileNode.mem_reached_iff hentries).1 hd)]
  rfl

end FileTree

end Rulebook
