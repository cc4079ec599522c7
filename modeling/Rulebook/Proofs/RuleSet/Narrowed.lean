/-
# Loading under a selection

Specification §4.2 (Rule Repository Loader).

A selection decides about a metadata file by its rule alone, before anything is read for
it, and what it lets through comes to what it would come to without a selection
(`Selection.Narrows`). So a load under a selection registers those of the files registered
without one whose rules are admitted (`FileTree.registers_iff_permissive`).

Its active rules are not a part of the rules active without a selection: where a later rule
is left out, the earlier one that it replaced is active again. What is said of them is said
of the files in their order instead, and `load_narrowed` has the rest from there: a rule that
is left out hides none that is admitted, and of two selections, the one that admits less has
no active reference id that the other one has not.
-/

import Rulebook.Proofs.RuleSet.Counts
import Rulebook.Proofs.Rule.Selection

namespace Rulebook

/-! ### What passes a selection -/

namespace Selection

variable {s : Selection} {r : Rule}

/-- Without a selection every rule is admitted. -/
theorem admits_permissive (r : Rule) : permissive.admits r = true := by
  have hskips : ¬ permissive.skips r = true := by
    rw [skips_iff]
    rintro ⟨id, hid, -⟩
    cases hid
  refine admits_iff.2 ⟨allows_iff.2 ⟨?_, ?_, ?_, ?_⟩, Bool.eq_false_iff.2 hskips⟩
  · exact fun h => absurd rfl h
  · exact fun h => absurd rfl h
  · intro m hm
    cases hm
  · exact fun _ h => absurd rfl h

/-- An admitted rule is screened for its name alone. -/
theorem screen_of_admits (h : s.admits r = true) : s.screen r = permissive.screen r := by
  obtain ⟨hallows, hskips⟩ := admits_iff.1 h
  obtain ⟨hallows', hskips'⟩ := admits_iff.1 (admits_permissive r)
  rw [screen, screen, hallows, hskips, hallows', hskips']

/-- A rule passes if it is selected and has no reserved name. -/
theorem screen_eq_none_iff_admits :
    s.screen r = none ↔ s.admits r = true ∧ permissive.screen r = none := by
  constructor
  · intro h
    obtain ⟨hallows, hskips, -⟩ := screen_eq_none_iff.1 h
    have hadmits : s.admits r = true := admits_iff.2 ⟨hallows, Bool.eq_false_iff.2 hskips⟩
    exact ⟨hadmits, screen_of_admits hadmits ▸ h⟩
  · rintro ⟨hadmits, h⟩
    rw [screen_of_admits hadmits, h]

/-- A metadata file has a rule that a selection admits. -/
def AdmitsFile (s : Selection) (f : ScannedFile) : Prop :=
  ∃ rule, f.parsed = .ok rule ∧ s.admits rule = true

/-- What a metadata file comes to under a selection, beside what it comes to without one. -/
inductive Narrows (s : Selection) (parsed : Json.Decoded Rule) : LoadStatus → LoadStatus → Prop
  /-- No rule can be read, which is nothing to select from. -/
  | unparsed {e : Json.DecodeError} (hparsed : parsed = .error e) :
      Narrows s parsed (.failed (.metadata e)) (.failed (.metadata e))
  | notAllowed {rule : Rule} {status : LoadStatus} (hparsed : parsed = .ok rule)
      (hallows : s.allows rule = false) : Narrows s parsed status (.rejected .notAllowed)
  | skipped {rule : Rule} {status : LoadStatus} (hparsed : parsed = .ok rule)
      (hallows : s.allows rule = true) (hskips : s.skips rule = true) :
      Narrows s parsed status (.rejected .skipRule)
  /-- The rule is admitted, and all else is as it is without a selection. -/
  | admitted {rule : Rule} {status : LoadStatus} (hparsed : parsed = .ok rule)
      (hadmits : s.admits rule = true) : Narrows s parsed status status

end Selection

namespace FileTree

variable {tree : FileTree} {s : Selection}

/-- The selection decides before anything is read. -/
theorem outcome_of_screen_eq_some {directory : Path} {rule : Rule} {reason : RejectReason}
    (h : s.screen rule = some reason) :
    tree.outcome s directory (.ok rule) = .rejected reason := by
  unfold outcome loadRule source Selection.pick
  simp only [h]

/-- A rule that is selected comes to the same as without a selection. -/
theorem outcome_of_admits {directory : Path} {rule : Rule} (h : s.admits rule = true) :
    tree.outcome s directory (.ok rule) = tree.outcome .permissive directory (.ok rule) := by
  unfold outcome loadRule source Selection.pick
  simp only [Selection.screen_of_admits h]

/-- **A selection narrows the outcome of every metadata file.** -/
theorem narrows_outcome (tree : FileTree) (s : Selection) (directory : Path)
    (parsed : Json.Decoded Rule) :
    s.Narrows parsed (tree.outcome .permissive directory parsed)
      (tree.outcome s directory parsed) := by
  rcases parsed with e | rule
  · exact .unparsed rfl
  · rcases hallows : s.allows rule with _ | _
    · have hscreen : s.screen rule = some .notAllowed := by
        rw [Selection.screen, hallows]
        rfl
      rw [outcome_of_screen_eq_some hscreen]
      exact .notAllowed rfl hallows
    · rcases hskips : s.skips rule with _ | _
      · have hadmits : s.admits rule = true := Selection.admits_iff.2 ⟨hallows, hskips⟩
        rw [outcome_of_admits hadmits]
        exact .admitted rfl hadmits
      · have hscreen : s.screen rule = some .skipRule := by
          rw [Selection.screen, hallows, hskips]
          rfl
        rw [outcome_of_screen_eq_some hscreen]
        exact .skipped rfl hallows hskips

/-- **What a selection lets register**: what is registered without it and has an admitted
rule. -/
theorem registers_iff_permissive {f : ScannedFile} {id : String} {loaded : LoadedRule} :
    tree.Registers s f id loaded ↔ tree.Registers .permissive f id loaded ∧ s.AdmitsFile f := by
  constructor
  · rintro ⟨rule, hparsed, hscreen, hid, hrenders⟩
    obtain ⟨hadmits, hpermissive⟩ := Selection.screen_eq_none_iff_admits.1 hscreen
    exact ⟨⟨rule, hparsed, hpermissive, hid, hrenders⟩, rule, hparsed, hadmits⟩
  · rintro ⟨⟨rule, hparsed, hpermissive, hid, hrenders⟩, rule', hparsed', hadmits⟩
    obtain rfl := Except.ok.inj (hparsed.symm.trans hparsed')
    exact ⟨rule, hparsed, Selection.screen_eq_none_iff_admits.2 ⟨hadmits, hpermissive⟩, hid,
      hrenders⟩

end FileTree

/-! ### Two loads of one tree -/

section

variable {tree : FileTree} {s : Selection} {files : List ScannedFile} {id : String}

/-- The active rule under an id is that of the last admitted file registered under it without
a selection. -/
theorem Loading.get?_rules_eq_some_iff_permissive {loaded : LoadedRule} :
    (uncached tree s files).finish.rules.get? id = some loaded ↔
      ∃ before f after, files = before ++ f :: after ∧
        tree.Registers .permissive f id loaded ∧ s.AdmitsFile f ∧
        ∀ g ∈ after, ∀ other, tree.Registers .permissive g id other → ¬ s.AdmitsFile g := by
  rw [← run_eq_uncached]
  show (run tree s files).set.rules.get? id = some loaded ↔ _
  rw [get?_rules_run_eq_some_iff]
  refine exists_congr fun before => exists_congr fun f => exists_congr fun after =>
    and_congr_right fun _ => ?_
  rw [FileTree.registers_iff_permissive, and_assoc]
  refine and_congr_right fun _ => and_congr_right fun _ => forall₂_congr fun g _ => ?_
  rw [ne_eq, FileTree.outcome_eq_registered_iff_registers, not_exists]
  refine forall_congr' fun other => ?_
  rw [FileTree.registers_iff_permissive, not_and]

end

/-- **A selection leaves rules out and changes nothing else.** Whether a tree can be loaded
does not depend on the selection. If it can, a load under a selection deals with the same
metadata files as a load without one, in the same order, and narrows the outcome of each.
Its active rules are those of the files registered without a selection whose rules are
admitted, the last one under each reference id, so an admitted rule keeps its reference id
active whatever else has it. A selection that admits more than another has all the reference
ids active that the other has. -/
theorem load_narrowed (tree : FileTree) (root : Path) :
    (∀ e, tree.metadataFiles root = .error e → ∀ s, RuleSet.load tree s root = .error e) ∧
    (∀ files, tree.metadataFiles root = .ok files → ∀ s, ∃ set all,
      RuleSet.load tree s root = .ok set ∧ RuleSet.load tree .permissive root = .ok all ∧
      set.results.map (·.path) = files.map (·.path) ∧
      all.results.map (·.path) = files.map (·.path) ∧
      (∀ (i : Nat) (f : ScannedFile) (r r' : LoadResult), files[i]? = some f →
        set.results[i]? = some r → all.results[i]? = some r' →
          s.Narrows f.parsed r'.status r.status) ∧
      (∀ id loaded, set.rules.get? id = some loaded ↔
        ∃ before f after, files = before ++ f :: after ∧
          tree.Registers .permissive f id loaded ∧ s.AdmitsFile f ∧
          ∀ g ∈ after, ∀ other, tree.Registers .permissive g id other → ¬ s.AdmitsFile g) ∧
      ∀ f ∈ files, ∀ id loaded, tree.Registers .permissive f id loaded → s.AdmitsFile f →
        id ∈ set.rules.keys) ∧
    ∀ s s' : Selection, (∀ rule, s.admits rule = true → s'.admits rule = true) →
      ∀ set set', RuleSet.load tree s root = .ok set → RuleSet.load tree s' root = .ok set' →
        set.rules.keys ⊆ set'.rules.keys := by
  refine ⟨fun e he s => ?_, fun files hfiles s => ?_, fun s s' hadmits set set' hset hset' => ?_⟩
  · rw [RuleSet.load_eq_map, he]
    rfl
  · refine ⟨_, _, RuleSet.load_eq_ok_iff.2 ⟨files, hfiles, rfl⟩,
      RuleSet.load_eq_ok_iff.2 ⟨files, hfiles, rfl⟩, ?_, ?_, fun i f r r' hf hr hr' => ?_,
      fun id loaded => Loading.get?_rules_eq_some_iff_permissive,
      fun f hf id loaded hregisters hfile => ?_⟩
    · exact List.map_map ..
    · exact List.map_map ..
    · have hresult (s : Selection) :
          (Loading.uncached tree s files).finish.results[i]? = some (tree.result s f) := by
        show (files.map (tree.result s))[i]? = _
        rw [List.getElem?_map, hf]
        rfl
      obtain rfl := Option.some.inj ((hresult s).symm.trans hr)
      obtain rfl := Option.some.inj ((hresult .permissive).symm.trans hr')
      exact tree.narrows_outcome s f.directory f.parsed
    · exact Loading.mem_keys_rules_iff.2
        ⟨f, hf, loaded, FileTree.registers_iff_permissive.2 ⟨hregisters, hfile⟩⟩
  · obtain ⟨files, hfiles, rfl⟩ := RuleSet.load_eq_ok_iff.1 hset
    obtain ⟨files', hfiles', rfl⟩ := RuleSet.load_eq_ok_iff.1 hset'
    obtain rfl := Except.ok.inj (hfiles.symm.trans hfiles')
    intro id hid
    obtain ⟨f, hf, loaded, hregisters⟩ := Loading.mem_keys_rules_iff.1 hid
    obtain ⟨hpermissive, rule, hparsed, hrule⟩ := FileTree.registers_iff_permissive.1 hregisters
    exact Loading.mem_keys_rules_iff.2 ⟨f, hf, loaded, FileTree.registers_iff_permissive.2
      ⟨hpermissive, rule, hparsed, hadmits rule hrule⟩⟩

/-! ### A later rule, left out -/

namespace Collision

/-- The selection of the category of the first rule. -/
def narrow : Selection := { categories := ["K"] }

/-- The rule of the second file is not selected. -/
theorem not_admitsFile_second : ¬ narrow.AdmitsFile second := by
  rintro ⟨r, hparsed, hadmits⟩
  obtain rfl := Except.ok.inj (ofBytes_metadata.2.symm.trans hparsed)
  exact absurd hadmits (by decide)

/-- A file without a rule is never selected. -/
theorem not_admitsFile_broken (s : Selection) : ¬ s.AdmitsFile broken := by
  rintro ⟨r, hparsed, -⟩
  obtain ⟨e, hbroken⟩ := parsed_broken
  cases hbroken.symm.trans hparsed

/-- The hypotheses of `load_narrowed` are satisfiable: without a selection the second rule is
active, and where it is left out, the first one is. -/
theorem load_narrowed_collision :
    tree.metadataFiles ⟨"/p"⟩ = .ok [first, second, broken] ∧
      (∀ rule, narrow.admits rule = true → Selection.permissive.admits rule = true) ∧
      ∃ set all, RuleSet.load tree narrow ⟨"/p"⟩ = .ok set ∧
        RuleSet.load tree .permissive ⟨"/p"⟩ = .ok all ∧
        set.rules.get? "r" = some (loaded "l" "k") ∧ all.rules.get? "r" = some (loaded "q" "") ∧
        set.rules.keys ⊆ all.rules.keys := by
  obtain ⟨-, hload, hsubset⟩ := load_narrowed tree ⟨"/p"⟩
  obtain ⟨set, all, hset, hall, -, -, -, hrules, -⟩ := hload _ metadataFiles_eq narrow
  obtain ⟨all', -, hall', -, -, -, -, hrulesAll, -⟩ := hload _ metadataFiles_eq .permissive
  obtain rfl := Except.ok.inj (hall'.symm.trans hall)
  have hadmits (rule : Rule) (_ : narrow.admits rule = true) :
      Selection.permissive.admits rule = true :=
    Selection.admits_permissive rule
  refine ⟨metadataFiles_eq, hadmits, set, all', hset, hall, ?_, ?_,
    hsubset narrow .permissive hadmits set all' hset hall⟩
  · refine (hrules "r" (loaded "l" "k")).2
      ⟨[], first, [second, broken], rfl, registers _ ofBytes_metadata.1 (by decide),
        ⟨rule "l" "k", ofBytes_metadata.1, by decide⟩, fun g hg other _ => ?_⟩
    rcases List.mem_pair.1 hg with rfl | rfl
    · exact not_admitsFile_second
    · exact not_admitsFile_broken narrow
  · refine (hrulesAll "r" (loaded "q" "")).2
      ⟨[first], second, [broken], rfl, registers _ ofBytes_metadata.2 (by decide),
        ⟨rule "q" "", ofBytes_metadata.2, by decide⟩, fun g hg other _ => ?_⟩
    obtain rfl := List.mem_singleton.1 hg
    exact not_admitsFile_broken .permissive

end Collision

end Rulebook
