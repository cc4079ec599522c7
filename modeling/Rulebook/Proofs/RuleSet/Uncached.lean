/-
# Loading without a cache

Specification §4.2 (Rule Repository Loader).

A load threads its body cache, its rules and its counters through all metadata files. None
of this decides what a file comes to: the load gives it the outcome that it has on its own
(`Loading.run_eq_uncached`). The active rules are then those that the files register, the
last one under each reference id (`Loading.get?_rules_run_eq_some_iff`).

The invariant that carries this is `Loading.CacheSound`: whatever the cache has under a
path is what is read at the path. A file that fails leaves its body behind in the cache,
but an entry that is read again is the entry that is already there.
-/

import Mathlib
import Rulebook.Proofs.RuleSet.Outcome
import Rulebook.Proofs.Text.Raw

namespace Rulebook

variable {tree : FileTree} {s : Selection}

namespace Loading

/-- Where metadata files lead when each is looked at on its own. The bodies are there to be
counted; none of them is looked up. -/
def uncached (tree : FileTree) (s : Selection) (files : List ScannedFile) : Loading where
  set :=
    { rules := .ofList (files.filterMap (tree.registration? s))
      stats :=
        { metadataFiles := files.length
          descriptors := files.countP fun f => (s.pick f.parsed).isOk
          registered := files.countP fun f => (tree.loadRule s f.directory f.parsed).isOk }
      results := files.map (tree.result s) }
  bodies := .ofList (files.filterMap (tree.bodyEntry? s))

/-- A load has kept for a path only what is read there. -/
def CacheSound (tree : FileTree) (l : Loading) : Prop :=
  ∀ p bytes, l.bodies.get? p.text.key = some bytes → tree.read p = .ok bytes

variable {l : Loading}

/-- With a sound cache, fetching is reading. -/
theorem CacheSound.fetch_eq (h : l.CacheSound tree) (p : Path) :
    l.fetch tree p =
      (tree.read p).map fun bytes =>
        (bytes, { l with bodies := l.bodies.insert p.text.key bytes }) := by
  unfold fetch
  rcases hget : l.bodies.get? p.text.key with _ | bytes
  · rcases tree.read p with e | bytes <;> rfl
  · rw [h p bytes hget]
    simp only [Except.map]
    rw [SortedMap.insert_of_get?_eq_some hget]

/-- **What one metadata file does to a load with a sound cache**: nothing that depends on
the files before it. -/
theorem CacheSound.step_eq (h : l.CacheSound tree) (f : ScannedFile) :
    l.step tree s f =
      { set :=
          { rules := l.set.rules.update (tree.registration? s f)
            stats :=
              { l.set.stats with
                metadataFiles := l.set.stats.metadataFiles + 1
                descriptors :=
                  l.set.stats.descriptors + if (s.pick f.parsed).isOk then 1 else 0
                registered := l.set.stats.registered +
                  if (tree.loadRule s f.directory f.parsed).isOk then 1 else 0 }
            results := l.set.results ++ [tree.result s f] }
        bodies := l.bodies.update (tree.bodyEntry? s f) } := by
  have hfetch (p : Path) := CacheSound.fetch_eq (l := l.countDescriptor) h p
  unfold step process FileTree.result FileTree.outcome FileTree.registration? FileTree.bodyEntry?
    FileTree.loadRule FileTree.source Selection.pick
  -- One case for every exit of `process`, from the parse to the body.
  rcases f with ⟨directory, path, e | rule⟩
  · rfl
  · rcases hscreen : s.screen rule with _ | reason
    · rcases hcanon : tree.canonicalize (directory.join ⟨rule.file⟩) with e | bodyPath
      · simp only [hscreen, hcanon]
        rfl
      · rcases hread : tree.read bodyPath with e | bytes
        · simp only [hscreen, hcanon, hfetch, hread, Except.map]
          rfl
        · rcases hbody : rule.withNameArg.withBody bodyPath bytes with status | loaded
          · simp only [hscreen, hcanon, hfetch, hread, hbody, Except.map]
            rfl
          · have hid : loaded.rule.referenceId = rule.referenceId := by
              rw [(Rule.withBody_eq_ok_iff.1 hbody).1, Rule.referenceId_withNameArg]
            simp only [hscreen, hcanon, hfetch, hread, hbody, Except.map, hid]
            rfl
    · simp only [hscreen]
      rfl

/-- **The cache stays sound**, also when the file whose body is kept fails later on. -/
theorem CacheSound.step (h : l.CacheSound tree) (f : ScannedFile) :
    (l.step tree s f).CacheSound tree := by
  rw [h.step_eq]
  intro p bytes hget
  rcases hentry : tree.bodyEntry? s f with _ | ⟨key, contents⟩
  · rw [hentry] at hget
    exact h p bytes hget
  · obtain ⟨source, hsource, rfl, rfl⟩ := FileTree.bodyEntry?_eq_some_iff.1 hentry
    rw [hentry] at hget
    by_cases hp : p = source.bodyPath
    · subst hp
      obtain rfl := Option.some.inj ((SortedMap.get?_insert_self ..).symm.trans hget)
      exact (FileTree.source_eq_ok_iff.1 hsource).2.2
    · -- Different paths have different keys.
      have hkey : p.text.key ≠ source.bodyPath.text.key :=
        fun hkey => hp (Path.ext (RawText.key_injective hkey))
      exact h p bytes ((SortedMap.get?_insert_of_ne _ hkey _).symm.trans hget)

/-- The last file is dealt with after the others. -/
theorem run_append_singleton (files : List ScannedFile) (f : ScannedFile) :
    run tree s (files ++ [f]) = (run tree s files).step tree s f := by
  rw [run, List.foldl_append]
  rfl

/-- Whatever files have been dealt with, the cache holds what would be read. -/
theorem cacheSound_run (files : List ScannedFile) : (run tree s files).CacheSound tree := by
  induction files using List.reverseRecOn with
  | nil =>
    intro p bytes hget
    cases hget
  | append_singleton files f ih =>
    rw [run_append_singleton]
    exact ih.step f

/-- **A load looks at every metadata file on its own.** -/
theorem run_eq_uncached (files : List ScannedFile) : run tree s files = uncached tree s files := by
  induction files using List.reverseRecOn with
  | nil => rfl
  | append_singleton files f ih =>
    have hsound : (run tree s files).CacheSound tree := cacheSound_run files
    rw [run_append_singleton, hsound.step_eq, ih]
    simp only [uncached, SortedMap.ofList_filterMap_append_singleton, List.length_append,
      List.length_singleton, List.countP_append, List.countP_singleton, List.map_append,
      List.map_singleton]

end Loading

/-! ### Loading a policy tree -/

/-- The rules that a selection admits in and below a path, each metadata file looked at on
its own. -/
def RuleSet.loadUncached (tree : FileTree) (s : Selection) (root : Path) :
    Except LoadError RuleSet :=
  match tree.walk root with
  | .error e => .error (.walk root e)
  | .ok [] => .error (.noDirectories root)
  | .ok ds => .ok (Loading.uncached tree s (tree.scan ds)).finish

/-- A load gives what it would give without a cache. -/
theorem RuleSet.load_eq_loadUncached (root : Path) :
    RuleSet.load tree s root = RuleSet.loadUncached tree s root := by
  unfold load loadUncached
  rcases tree.walk root with e | _ | ⟨d, ds⟩
  · rfl
  · rfl
  · simp only [Loading.run_eq_uncached]

/-- The metadata files of a policy tree, in the order in which they are dealt with. -/
def FileTree.metadataFiles (tree : FileTree) (root : Path) : Except LoadError (List ScannedFile) :=
  match tree.walk root with
  | .error e => .error (.walk root e)
  | .ok [] => .error (.noDirectories root)
  | .ok ds => .ok (tree.scan ds)

/-- A directory without subdirectories has its own metadata files only. -/
theorem FileTree.metadataFiles_of_directories {root : Path} {entries : List (RawText × FileNode)}
    {found : List (RawText × List UInt8)}
    (hdirectories : tree.directories root = .ok [⟨root, entries⟩])
    (hcandidates : tree.candidates ⟨root, entries⟩ = found) :
    tree.metadataFiles root =
      .ok (found.map fun e => ⟨root, root.join ⟨e.1⟩, Rule.ofBytes e.2⟩) := by
  have hwalk : tree.walk root = .ok [⟨root, entries⟩] := by
    rw [FileTree.walk, hdirectories, Except.map, List.mergeSort_singleton]
  rw [FileTree.metadataFiles, hwalk]
  simp only
  rw [FileTree.scan, List.flatMap_singleton, FileTree.scanDirectory, hcandidates]

/-- **The selection has no say in which files there are.** -/
theorem RuleSet.load_eq_map (root : Path) :
    RuleSet.load tree s root =
      (tree.metadataFiles root).map fun files => (Loading.uncached tree s files).finish := by
  rw [load_eq_loadUncached]
  unfold loadUncached FileTree.metadataFiles
  rcases tree.walk root with e | _ | ⟨d, ds⟩ <;> rfl

/-- What a load gives is what it would make of its metadata files without a cache. -/
theorem RuleSet.load_eq_ok_iff {root : Path} {set : RuleSet} :
    RuleSet.load tree s root = .ok set ↔
      ∃ files, tree.metadataFiles root = .ok files ∧
        set = (Loading.uncached tree s files).finish := by
  rw [load_eq_map]
  rcases tree.metadataFiles root with e | files
  · simp [Except.map]
  · simp [Except.map, eq_comm]

/-- The active rule under an id is the one registered last under it. -/
theorem Loading.get?_rules_run_eq_some_iff {files : List ScannedFile} {id : String}
    {loaded : LoadedRule} :
    (run tree s files).set.rules.get? id = some loaded ↔
      ∃ before f after, files = before ++ f :: after ∧ tree.Registers s f id loaded ∧
        ∀ g ∈ after, tree.outcome s g.directory g.parsed ≠ .registered id := by
  rw [run_eq_uncached, uncached, SortedMap.get?_ofList_eq_some_iff, givesLast_filterMap_iff]
  refine exists_congr fun before => exists_congr fun f => exists_congr fun after => ?_
  simp only [← FileTree.registers_iff, ne_eq, FileTree.outcome_eq_registered_iff_registers,
    not_exists]

/-- The active reference ids are those under which some file is registered. -/
theorem Loading.mem_keys_rules_iff {files : List ScannedFile} {id : String} :
    id ∈ (uncached tree s files).finish.rules.keys ↔
      ∃ f ∈ files, ∃ loaded, tree.Registers s f id loaded := by
  show id ∈ (SortedMap.ofList (files.filterMap (tree.registration? s))).keys ↔ _
  simp only [SortedMap.mem_keys_ofList_iff, List.mem_filterMap, FileTree.registers_iff]
  constructor
  · rintro ⟨loaded, f, hf, hregistration⟩
    exact ⟨f, hf, loaded, hregistration⟩
  · rintro ⟨f, hf, loaded, hregistration⟩
    exact ⟨loaded, f, hf, hregistration⟩

/-- **The rules of a load.**  A load gives what it would give without its cache: every
metadata file has the outcome that its directory and its parse have on their own, and the
active rule under an id is the one that the last file registered under it gives.  That rule
is the parsed one with its name among its arguments, under its own reference id, and its
body is what the contents at the canonical path of its body file are rendered as.  A file
that is not registered leaves the rules as they are. -/
theorem load_agrees_with_uncached (tree : FileTree) (s : Selection) :
    (∀ root, RuleSet.load tree s root = RuleSet.loadUncached tree s root) ∧
    (∀ f id, tree.outcome s f.directory f.parsed = .registered id ↔
      ∃ loaded, tree.Registers s f id loaded) ∧
    ∀ files : List ScannedFile,
      (Loading.run tree s files).finish.results =
        files.map (fun f => ⟨f.path, tree.outcome s f.directory f.parsed⟩) ∧
      (∀ id loaded, (Loading.run tree s files).finish.rules.get? id = some loaded ↔
        ∃ before f after, files = before ++ f :: after ∧ tree.Registers s f id loaded ∧
          ∀ g ∈ after, tree.outcome s g.directory g.parsed ≠ .registered id) ∧
      (∀ id loaded, (Loading.run tree s files).finish.rules.get? id = some loaded →
        loaded.rule.referenceId = id) ∧
      ∀ f, (∀ id, tree.outcome s f.directory f.parsed ≠ .registered id) →
        (Loading.run tree s (files ++ [f])).finish.rules =
          (Loading.run tree s files).finish.rules := by
  refine ⟨fun root => RuleSet.load_eq_loadUncached root,
    fun f id => FileTree.outcome_eq_registered_iff_registers, fun files => ⟨?_, ?_, ?_, ?_⟩⟩
  · rw [Loading.run_eq_uncached]
    rfl
  · exact fun id loaded => Loading.get?_rules_run_eq_some_iff
  · intro id loaded hget
    obtain ⟨_, f, _, -, ⟨rule, -, -, rfl, h⟩, -⟩ := Loading.get?_rules_run_eq_some_iff.1 hget
    exact h.referenceId_eq
  · intro f hf
    have hnone : tree.registration? s f = none := by
      rcases hreg : tree.registration? s f with _ | ⟨id, loaded⟩
      · rfl
      · exact absurd (FileTree.outcome_eq_registered_iff_registers.2
          ⟨loaded, FileTree.registers_iff.2 hreg⟩) (hf id)
    show (Loading.run tree s (files ++ [f])).set.rules = (Loading.run tree s files).set.rules
    rw [Loading.run_append_singleton, (Loading.cacheSound_run files).step_eq, hnone]
    rfl

/-! ### One body, read once for two rules -/

namespace SharedBody

/-- A rule with a name and a body file. -/
def rule (name referenceId file : String) : Rule where
  name
  file
  templateArgs := .empty
  severity := .high
  description := ""
  referenceId
  category := ""
  version := 1
  id := ""
  resourceType := ""
  policyType := ""

/-- A body in one directory, and a link to it in another. -/
def linked : FileTree where
  root := .directory
    [("a", .directory [("x", .file (Text.encodeUtf8 "deny {{ name }}"))]),
      ("b", .directory [("y", .link ⟨"../a/x"⟩)])]
  workingDirectory := ⟨"/"⟩

/-- A metadata file for the body. -/
def first : ScannedFile := ⟨⟨"/a"⟩, ⟨"/a/1.json"⟩, .ok (rule "first" "id" "x")⟩

/-- A metadata file for the link, with the same reference id. -/
def second : ScannedFile := ⟨⟨"/b"⟩, ⟨"/b/1.json"⟩, .ok (rule "second" "id" "y")⟩

/-- A metadata file without a body. -/
def lost : ScannedFile := ⟨⟨"/b"⟩, ⟨"/b/2.json"⟩, .ok (rule "third" "id" "z")⟩

/-- What the metadata file for the link registers. -/
def loaded : LoadedRule where
  rule := (rule "second" "id" "y").withNameArg
  body := "deny second"
  bodyPath := ⟨"/a/x"⟩

/-- The second file registers its rule. -/
theorem registers_second : linked.Registers .permissive second "id" loaded := by
  refine ⟨rule "second" "id" "y", rfl, by decide, rfl, ?_, ?_, ?_, ?_, ?_⟩
  · exact (rule "second" "id" "y").withNameArg_eq
  · exact (rule "second" "id" "y").get?_templateArgs_withNameArg
  · rfl
  · exact ⟨_, rfl, by cbv⟩
  · decide

/-- The hypotheses of `load_agrees_with_uncached` are satisfiable: the body is rendered anew
for the second rule, which is the active one, also after a file without a body. -/
theorem load_agrees_with_uncached_sharedBody :
    (Loading.run linked .permissive [first, second]).finish.rules.get? "id" = some loaded ∧
      loaded.rule.referenceId = "id" ∧
      (∀ id, linked.outcome .permissive lost.directory lost.parsed ≠ .registered id) ∧
      (Loading.run linked .permissive ([first, second] ++ [lost])).finish.rules =
        (Loading.run linked .permissive [first, second]).finish.rules := by
  obtain ⟨-, -, hruns⟩ := load_agrees_with_uncached linked .permissive
  obtain ⟨-, hlast, hkey, hsame⟩ := hruns [first, second]
  have hget := (hlast "id" loaded).2 ⟨[first], second, [], rfl, registers_second, by simp⟩
  have hlost : ∀ id, linked.outcome .permissive lost.directory lost.parsed ≠ .registered id := by
    intro id
    rw [show linked.outcome .permissive lost.directory lost.parsed =
      .failed (.body ⟨"/b/z"⟩ .notFound) from rfl]
    simp
  exact ⟨hget, hkey _ _ hget, hlost, hsame lost hlost⟩

end SharedBody

end Rulebook
