/-
# What a load counts

Specification §4.2 (Rule Repository Loader).

A load counts as it goes: metadata files where their outcomes are recorded, rules when they
have passed the selection, registrations when a body has been rendered; body files and
active rules only at the end, from the two maps it has filled. `RuleSet.Counted` says that
the counters agree with the outcomes, which are of five kinds (`LoadStatus.Kind`), and
`load_stats_counted` that they do so after every load.

A metadata file that does not register its rule may have passed the selection, and a body
file may have been read for it, so neither counter can be read off the registrations. Each
file is of one kind, and its kind says how far it has come (`FileTree.outcome_cases`). The
two maps are as large as there are different keys that were put into them
(`SortedMap.size_ofList`).
-/

import Mathlib
import Rulebook.Proofs.RuleSet.Shelf

namespace Rulebook

/-! ### The size of a map -/

namespace SortedMap

variable {α : Type u}

/-- **A map built from a list has as many entries as the list has different keys.** -/
theorem size_ofList (l : List (String × α)) : (ofList l).size = {k | ∃ v, (k, v) ∈ l}.ncard := by
  have hkeys : {k | ∃ v, (k, v) ∈ l} = ((ofList l).keys.toFinset : Set String) := by
    ext k
    rw [Finset.mem_coe, List.mem_toFinset, mem_keys_ofList_iff]
    rfl
  rw [hkeys, Set.ncard_coe_finset, List.toFinset_card_of_nodup (ofList l).nodup_keys, keys,
    List.length_map]
  rfl

/-- A map has no more keys than entries were put into it. -/
theorem size_ofList_le (l : List (String × α)) : (ofList l).size ≤ l.length := by
  have hkeys : {k | ∃ v, (k, v) ∈ l} = ((l.map Prod.fst).toFinset : Set String) := by
    ext k
    rw [Finset.mem_coe, List.mem_toFinset, List.mem_map]
    simp
  calc (ofList l).size = (l.map Prod.fst).toFinset.card := by
        rw [size_ofList, hkeys, Set.ncard_coe_finset]
    _ ≤ (l.map Prod.fst).length := List.toFinset_card_le _
    _ = l.length := List.length_map ..

end SortedMap

/-! ### The kinds of outcomes -/

/-- How far the rule of a metadata file has come. -/
inductive LoadStatus.Kind where
  /-- The file holds no rule. -/
  | unparsed
  /-- The rule did not pass the selection or the check of names. -/
  | leftOut
  /-- The body could not be read or rendered. -/
  | unusable
  /-- The body was rendered to nothing. -/
  | bodyless
  | registered
deriving DecidableEq, Repr

/-- The kind of an outcome. -/
def LoadStatus.kind : LoadStatus → LoadStatus.Kind
  | .failed (.metadata _) => .unparsed
  | .rejected .notAllowed => .leftOut
  | .rejected .skipRule => .leftOut
  | .rejected .reservedName => .leftOut
  | .failed (.body _ _) => .unusable
  | .failed (.template _) => .unusable
  | .rejected .emptyBody => .bodyless
  | .registered _ => .registered

/-- No rule is screened for its body. -/
theorem Selection.screen_ne_emptyBody (s : Selection) (r : Rule) :
    s.screen r ≠ some .emptyBody := by
  unfold screen
  rcases s.allows r <;> rcases s.skips r <;> rcases r.hasReservedName <;> simp

/-- A rule that is rejected before its body is rendered is left out. -/
theorem LoadStatus.kind_rejected_of_ne {reason : RejectReason} (h : reason ≠ .emptyBody) :
    (LoadStatus.rejected reason).kind = .leftOut := by
  cases reason with
  | emptyBody => exact absurd rfl h
  | notAllowed => rfl
  | skipRule => rfl
  | reservedName => rfl

namespace FileTree

/-- **How far a metadata file has come is its kind**: no further than to the selection, past
the selection, or all the way. -/
theorem outcome_cases (tree : FileTree) (s : Selection) (f : ScannedFile) :
    ((s.pick f.parsed).isOk = false ∧ (tree.loadRule s f.directory f.parsed).isOk = false ∧
        ((tree.result s f).status.kind = .unparsed ∨ (tree.result s f).status.kind = .leftOut)) ∨
      ((s.pick f.parsed).isOk = true ∧ (tree.loadRule s f.directory f.parsed).isOk = false ∧
        ((tree.result s f).status.kind = .unusable ∨
          (tree.result s f).status.kind = .bodyless)) ∨
      ((s.pick f.parsed).isOk = true ∧ (tree.loadRule s f.directory f.parsed).isOk = true ∧
        (tree.result s f).status.kind = .registered) := by
  unfold FileTree.result outcome loadRule source Selection.pick
  rcases f with ⟨directory, path, e | rule⟩
  · exact .inl ⟨rfl, rfl, .inl rfl⟩
  · rcases hscreen : s.screen rule with _ | reason
    · rcases hcanon : tree.canonicalize (directory.join ⟨rule.file⟩) with e | bodyPath
      · simp only [hscreen, hcanon]
        exact .inr (.inl ⟨rfl, rfl, .inl rfl⟩)
      · rcases hread : tree.read bodyPath with e | bytes
        · simp only [hscreen, hcanon, hread]
          exact .inr (.inl ⟨rfl, rfl, .inl rfl⟩)
        · simp only [hscreen, hcanon, hread, Rule.withBody]
          rcases renderBody bytes rule.withNameArg.templateArgs with e | body
          · exact .inr (.inl ⟨rfl, rfl, .inl rfl⟩)
          · by_cases hblank : Text.isBlankText body = true
            · simp only [hblank, if_true]
              exact .inr (.inl ⟨rfl, rfl, .inr rfl⟩)
            · simp only [hblank]
              exact .inr (.inr ⟨rfl, rfl, rfl⟩)
    · have hreason : reason ≠ .emptyBody := fun h => s.screen_ne_emptyBody rule (h ▸ hscreen)
      simp only [hscreen]
      exact .inl ⟨rfl, rfl, .inr (LoadStatus.kind_rejected_of_ne hreason)⟩

/-- A body file is read for a metadata file: its rule passes the selection and the check of
names, and the body file that it names has this canonical path and can be read. -/
def ReadsBody (tree : FileTree) (s : Selection) (f : ScannedFile) (p : Path) : Prop :=
  ∃ rule, f.parsed = .ok rule ∧ s.screen rule = none ∧
    tree.canonicalize (f.directory.join ⟨rule.file⟩) = .ok p ∧ ∃ bytes, tree.read p = .ok bytes

/-- A file reads a body exactly if it brings one into the store. -/
theorem readsBody_iff {tree : FileTree} {s : Selection} {f : ScannedFile} {p : Path} :
    tree.ReadsBody s f p ↔ ∃ bytes, tree.bodyEntry? s f = some (p.text.key, bytes) := by
  constructor
  · rintro ⟨rule, hparsed, hscreen, hcanon, bytes, hread⟩
    have hsource : tree.source s f.directory f.parsed = .ok ⟨rule, p, bytes⟩ :=
      source_eq_ok_iff.2 ⟨Selection.pick_eq_ok_iff.2 ⟨hparsed, hscreen⟩, hcanon, hread⟩
    exact ⟨bytes, bodyEntry?_eq_some_iff.2 ⟨_, hsource, rfl, rfl⟩⟩
  · rintro ⟨bytes, hentry⟩
    obtain ⟨source, hsource, hpath, -⟩ := bodyEntry?_eq_some_iff.1 hentry
    obtain ⟨hpick, hcanon, hread⟩ := source_eq_ok_iff.1 hsource
    obtain ⟨hparsed, hscreen⟩ := Selection.pick_eq_ok_iff.1 hpick
    obtain rfl : source.bodyPath = p := Path.ext (RawText.key_injective hpath)
    exact ⟨source.rule, hparsed, hscreen, hcanon, source.bytes, hread⟩

end FileTree

/-! ### The counters -/

namespace RuleSet

/-- The metadata files of a kind. -/
def countKind (set : RuleSet) (kind : LoadStatus.Kind) : Nat :=
  set.results.countP (·.status.kind = kind)

/-- The counters of a rule set agree with its rules, with the outcomes of its metadata files,
and with the body files that were read for them. -/
structure Counted (tree : FileTree) (s : Selection) (files : List ScannedFile) (set : RuleSet) :
    Prop where
  metadataFiles : set.stats.metadataFiles = set.results.length
  registered : set.stats.registered = set.countKind .registered
  ruleCount : set.stats.ruleCount = set.rules.size
  ruleCount_eq_ncard :
    set.stats.ruleCount = {id | ∃ r ∈ set.results, r.status = .registered id}.ncard
  descriptors :
    set.stats.descriptors =
      set.stats.registered + set.countKind .bodyless + set.countKind .unusable
  metadataFiles_eq_add :
    set.stats.metadataFiles =
      set.stats.descriptors + set.countKind .unparsed + set.countKind .leftOut
  bodyFiles : set.stats.bodyFiles = {p | ∃ f ∈ files, tree.ReadsBody s f p}.ncard

/-- The kinds of metadata files add up. -/
theorem countP_kind_add (tree : FileTree) (s : Selection) (files : List ScannedFile) :
    (files.countP fun f => (tree.loadRule s f.directory f.parsed).isOk) =
        (files.countP fun f => (tree.result s f).status.kind = .registered) ∧
      (files.countP fun f => (s.pick f.parsed).isOk) =
        (files.countP fun f => (tree.result s f).status.kind = .registered) +
          (files.countP fun f => (tree.result s f).status.kind = .bodyless) +
          (files.countP fun f => (tree.result s f).status.kind = .unusable) ∧
      files.length =
        (files.countP fun f => (s.pick f.parsed).isOk) +
          (files.countP fun f => (tree.result s f).status.kind = .unparsed) +
          (files.countP fun f => (tree.result s f).status.kind = .leftOut) := by
  induction files with
  | nil => exact ⟨rfl, rfl, rfl⟩
  | cons f files ih =>
    obtain ⟨hregistered, hpicked, hlength⟩ := ih
    simp only [List.countP_cons, List.length_cons]
    rcases tree.outcome_cases s f with
      ⟨hpick, hload, hkind | hkind⟩ | ⟨hpick, hload, hkind | hkind⟩ | ⟨hpick, hload, hkind⟩ <;>
      simp [hpick, hload, hkind] <;> omega

/-- The body files that are read for metadata files, by their paths. -/
theorem ncard_readsBody (tree : FileTree) (s : Selection) (files : List ScannedFile) :
    {p | ∃ f ∈ files, tree.ReadsBody s f p}.ncard =
      (SortedMap.ofList (files.filterMap (tree.bodyEntry? s))).size := by
  have hkeys : {k | ∃ bytes, (k, bytes) ∈ files.filterMap (tree.bodyEntry? s)} =
      (fun p : Path => p.text.key) '' {p | ∃ f ∈ files, tree.ReadsBody s f p} := by
    ext k
    simp only [Set.mem_image, List.mem_filterMap]
    constructor
    · rintro ⟨bytes, f, hf, hentry⟩
      obtain ⟨source, -, rfl, -⟩ := FileTree.bodyEntry?_eq_some_iff.1 hentry
      exact ⟨source.bodyPath, ⟨f, hf, FileTree.readsBody_iff.2 ⟨bytes, hentry⟩⟩, rfl⟩
    · rintro ⟨p, ⟨f, hf, hreads⟩, rfl⟩
      obtain ⟨bytes, hentry⟩ := FileTree.readsBody_iff.1 hreads
      exact ⟨bytes, f, hf, hentry⟩
  rw [SortedMap.size_ofList, hkeys, Set.ncard_image_of_injective]
  exact fun p q h => Path.ext (RawText.key_injective h)

/-- The reference ids of the registered metadata files. -/
theorem ncard_registered (tree : FileTree) (s : Selection) (files : List ScannedFile) :
    {id | ∃ r ∈ files.map (tree.result s), r.status = .registered id}.ncard =
      (SortedMap.ofList (files.filterMap (tree.registration? s))).size := by
  rw [SortedMap.size_ofList]
  congr 1
  ext id
  simp only [List.mem_map, List.mem_filterMap]
  constructor
  · rintro ⟨r, ⟨f, hf, rfl⟩, hstatus⟩
    obtain ⟨loaded, hregisters⟩ := FileTree.outcome_eq_registered_iff_registers.1 hstatus
    exact ⟨loaded, f, hf, FileTree.registers_iff.1 hregisters⟩
  · rintro ⟨loaded, f, hf, hregistration⟩
    exact ⟨_, ⟨f, hf, rfl⟩, FileTree.outcome_eq_registered_iff_registers.2
      ⟨loaded, FileTree.registers_iff.2 hregistration⟩⟩

/-- Whatever metadata files are dealt with are counted. -/
theorem counted_uncached (tree : FileTree) (s : Selection) (files : List ScannedFile) :
    (Loading.uncached tree s files).finish.Counted tree s files := by
  obtain ⟨hregistered, hpicked, hlength⟩ := countP_kind_add tree s files
  have hcount (kind : LoadStatus.Kind) :
      (Loading.uncached tree s files).finish.countKind kind =
        files.countP fun f => (tree.result s f).status.kind = kind :=
    List.countP_map ..
  refine ⟨(List.length_map ..).symm, ?_, rfl, ?_, ?_, ?_, ?_⟩
  · rw [hcount]
    exact hregistered
  · exact (ncard_registered tree s files).symm
  · rw [hcount, hcount]
    show (files.countP fun f => (s.pick f.parsed).isOk) =
      (files.countP fun f => (tree.loadRule s f.directory f.parsed).isOk) + _ + _
    rw [hregistered, hpicked]
  · rw [hcount, hcount]
    exact hlength
  · exact (ncard_readsBody tree s files).symm

/-- No more rules are active than were registered. -/
theorem ruleCount_uncached_le (tree : FileTree) (s : Selection) (files : List ScannedFile) :
    (Loading.uncached tree s files).finish.stats.ruleCount ≤
      (Loading.uncached tree s files).finish.stats.registered := by
  calc (SortedMap.ofList (files.filterMap (tree.registration? s))).size
      ≤ (files.filterMap (tree.registration? s)).length := SortedMap.size_ofList_le _
    _ = files.countP fun f => (tree.registration? s f).isSome := List.length_filterMap_eq_countP
    _ ≤ files.countP fun f => (tree.loadRule s f.directory f.parsed).isOk := by
      refine List.countP_mono_left fun f _ hsome => ?_
      obtain ⟨⟨id, loaded⟩, hregistration⟩ := Option.isSome_iff_exists.1 hsome
      rw [(FileTree.registration?_eq_some_iff.1 hregistration).1]
      rfl

/-- No more body files are read than rules passed the selection. -/
theorem bodyFiles_uncached_le (tree : FileTree) (s : Selection) (files : List ScannedFile) :
    (Loading.uncached tree s files).finish.stats.bodyFiles ≤
      (Loading.uncached tree s files).finish.stats.descriptors := by
  calc (SortedMap.ofList (files.filterMap (tree.bodyEntry? s))).size
      ≤ (files.filterMap (tree.bodyEntry? s)).length := SortedMap.size_ofList_le _
    _ = files.countP fun f => (tree.bodyEntry? s f).isSome := List.length_filterMap_eq_countP
    _ ≤ files.countP fun f => (s.pick f.parsed).isOk := by
      refine List.countP_mono_left fun f _ hsome => ?_
      obtain ⟨⟨k, bytes⟩, hentry⟩ := Option.isSome_iff_exists.1 hsome
      obtain ⟨source, hsource, -, -⟩ := FileTree.bodyEntry?_eq_some_iff.1 hentry
      rw [(FileTree.source_eq_ok_iff.1 hsource).1]
      rfl

end RuleSet

/-- **The counters of a load agree with what it gives.** Of the metadata files of a policy
tree, each with its own outcome, as many are registered, have no body, have an unusable
body, are left out or hold no rule as the counters say; there are as many active rules as
different reference ids under which rules were registered, and as many body files as
different canonical paths that were read. So no step counts more than the one before it. -/
theorem load_stats_counted {tree : FileTree} {s : Selection} {root : Path} {set : RuleSet}
    (h : RuleSet.load tree s root = .ok set) :
    (∃ files, tree.metadataFiles root = .ok files ∧ set.Counted tree s files) ∧
      set.stats.ruleCount ≤ set.stats.registered ∧
      set.stats.registered ≤ set.stats.descriptors ∧
      set.stats.descriptors ≤ set.stats.metadataFiles ∧
      set.stats.bodyFiles ≤ set.stats.descriptors := by
  obtain ⟨files, hfiles, rfl⟩ := RuleSet.load_eq_ok_iff.1 h
  have hcounted := RuleSet.counted_uncached tree s files
  have hdescriptors := hcounted.descriptors
  have hmetadata := hcounted.metadataFiles_eq_add
  exact ⟨⟨files, hfiles, hcounted⟩, RuleSet.ruleCount_uncached_le tree s files, by omega, by omega,
    RuleSet.bodyFiles_uncached_le tree s files⟩

/-! ### Two rules with one reference id and one body, beside a file without a rule -/

namespace Collision

/-- A rule under the reference id of both. -/
def rule (name category : String) : Rule := Shelf.rule name "r" category

/-- The contents of the metadata file of a rule. -/
def metadata (name category : String) : List UInt8 := Shelf.metadata name "r" category

/-- The contents of the body file of both rules. -/
def body : List UInt8 := Text.encodeUtf8 "deny {{ name }}"

/-- The metadata files of both rules and the file without a rule. -/
def files : List (RawText × List UInt8) :=
  [("a.json", metadata "l" "k"), ("b.json", metadata "q" ""), ("c.json", [])]

/-- The entries of the directory of the rules. -/
def entries : List (RawText × FileNode) := Shelf.entries files body

/-- A tree with the directory. -/
def tree : FileTree := Shelf.tree files body

/-- The metadata file of the first rule. -/
def first : ScannedFile := Shelf.scanned ("a.json", metadata "l" "k")

/-- The metadata file of the second rule. -/
def second : ScannedFile := Shelf.scanned ("b.json", metadata "q" "")

/-- The file without a rule. -/
def broken : ScannedFile := Shelf.scanned ("c.json", [])

/-- A rule as it is loaded. -/
def loaded (name category : String) : LoadedRule :=
  ⟨(rule name category).withNameArg, "deny " ++ name, ⟨"/p/x"⟩⟩

/-- The metadata of both files are read as their rules. -/
theorem ofBytes_metadata :
    Rule.ofBytes (metadata "l" "k") = .ok (rule "l" "k") ∧
      Rule.ofBytes (metadata "q" "") = .ok (rule "q" "") :=
  ⟨Shelf.ofBytes_metadata (by cbv), Shelf.ofBytes_metadata (by cbv)⟩

/-- The contents of the third file are not metadata. -/
theorem parsed_broken : ∃ e, broken.parsed = .error e := by
  have hread : Json.Document.read [] = ⟨.broken (.both .endInValue), false⟩ := by cbv
  rcases hparsed : broken.parsed with e | r
  · exact ⟨e, rfl⟩
  · rw [broken, Shelf.scanned, Rule.ofBytes, Json.decodeBytes, hread] at hparsed
    cases hparsed

/-- The three files are what a load deals with. -/
theorem metadataFiles_eq : tree.metadataFiles ⟨"/p"⟩ = .ok [first, second, broken] := by
  have horderly : Shelf.Orderly files := by decide +kernel
  exact Shelf.metadataFiles_tree horderly

/-- The body is rendered with the name of the rule. -/
theorem renderBody_body (name category : String) :
    renderBody body (rule name category).withNameArg.templateArgs = .ok ("deny " ++ name) := by
  cbv

/-- What the body is rendered as is not blank. -/
theorem not_isBlankText_body (name : String) : Text.isBlankText ("deny " ++ name) = false := by
  simp [Text.isBlankText, Text.isBlank]

/-- Each of the two metadata files registers its rule. -/
theorem registers (file : RawText) {s : Selection} {name category : String}
    (hparsed : Rule.ofBytes (metadata name category) = .ok (rule name category))
    (hscreen : s.screen (rule name category) = none) :
    tree.Registers s (Shelf.scanned (file, metadata name category)) "r" (loaded name category) :=
  Shelf.registers hparsed hscreen (renderBody_body name category) (not_isBlankText_body name)

/-- The hypothesis of `load_stats_counted` is satisfiable: of three metadata files two are
registered, with one body file between them, and one rule is active. -/
theorem load_stats_counted_collision :
    ∃ set, RuleSet.load tree .permissive ⟨"/p"⟩ = .ok set ∧ set.stats = ⟨3, 2, 1, 2, 1⟩ ∧
      (∃ files, tree.metadataFiles ⟨"/p"⟩ = .ok files ∧ set.Counted tree .permissive files) ∧
      set.stats.ruleCount ≤ set.stats.registered ∧
      set.stats.registered ≤ set.stats.descriptors ∧
      set.stats.descriptors ≤ set.stats.metadataFiles ∧
      set.stats.bodyFiles ≤ set.stats.descriptors := by
  have hload : RuleSet.load tree .permissive ⟨"/p"⟩ =
      .ok (Loading.uncached tree .permissive [first, second, broken]).finish :=
    RuleSet.load_eq_ok_iff.2 ⟨_, metadataFiles_eq, rfl⟩
  have hfirst : tree.registration? .permissive first = some ("r", loaded "l" "k") :=
    FileTree.registers_iff.1 (registers _ ofBytes_metadata.1 (by decide))
  have hsecond : tree.registration? .permissive second = some ("r", loaded "q" "") :=
    FileTree.registers_iff.1 (registers _ ofBytes_metadata.2 (by decide))
  obtain ⟨e, hbroken⟩ := parsed_broken
  have hloads : (tree.loadRule .permissive first.directory first.parsed).isOk = true ∧
      (tree.loadRule .permissive second.directory second.parsed).isOk = true ∧
      (tree.loadRule .permissive broken.directory broken.parsed).isOk = false := by
    rw [(FileTree.registration?_eq_some_iff.1 hfirst).1,
      (FileTree.registration?_eq_some_iff.1 hsecond).1, hbroken]
    exact ⟨rfl, rfl, rfl⟩
  have hparsed : first.parsed = .ok (rule "l" "k") ∧ second.parsed = .ok (rule "q" "") :=
    ofBytes_metadata
  have hbodies : tree.bodyEntry? .permissive first = some ("/p/x", body) ∧
      tree.bodyEntry? .permissive second = some ("/p/x", body) ∧
      tree.bodyEntry? .permissive broken = none := by
    refine ⟨?_, ?_, ?_⟩
    · rw [FileTree.bodyEntry?, FileTree.source, hparsed.1]
      rfl
    · rw [FileTree.bodyEntry?, FileTree.source, hparsed.2]
      rfl
    · rw [FileTree.bodyEntry?, FileTree.source, hbroken]
      rfl
  refine ⟨_, hload, LoadStats.ext rfl ?_ ?_ ?_ ?_, load_stats_counted hload⟩
  · show [first, second, broken].countP (fun f => (Selection.permissive.pick f.parsed).isOk) = 2
    simp only [List.countP_cons, hparsed, hbroken]
    rfl
  · show (SortedMap.ofList ([first, second, broken].filterMap
      (tree.bodyEntry? .permissive))).size = 1
    simp only [List.filterMap_cons, hbodies]
    rfl
  · show [first, second, broken].countP
      (fun f => (tree.loadRule .permissive f.directory f.parsed).isOk) = 2
    simp only [List.countP_cons, hloads]
    rfl
  · show (SortedMap.ofList ([first, second, broken].filterMap
      (tree.registration? .permissive))).size = 1
    have hnone : tree.registration? .permissive broken = none := by
      rw [FileTree.registration?, FileTree.loadRule, FileTree.source, hbroken]
      rfl
    simp only [List.filterMap_cons, hfirst, hsecond, hnone]
    rfl

end Collision

end Rulebook
