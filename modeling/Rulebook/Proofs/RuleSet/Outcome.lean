/-
# What a metadata file comes to

Specification §4.2 (Rule Repository Loader).

The outcome of a metadata file is said here for the file alone: its rule has to pass the
selection (`Selection.pick`), its body file has to be found and read (`FileTree.source`), and
the contents have to give a body (`FileTree.loadRule`). Each step is a function of the
directory and the parse, and of nothing that was loaded before.

A file is registered exactly if all steps succeed. `FileTree.Registers` says what that asks
of the rule and of what it is loaded as, and `FileTree.outcome_eq_registered_iff_registers`
that the outcome agrees.
-/

import Rulebook.Proofs.Rule.Loaded

namespace Rulebook

/-- The rule of a metadata file, if it passes the selection. -/
def Selection.pick (s : Selection) (parsed : Json.Decoded Rule) : Except LoadStatus Rule :=
  match parsed with
  | .error e => .error (.failed (.metadata e))
  | .ok rule =>
    match s.screen rule with
    | some reason => .error (.rejected reason)
    | none => .ok rule

/-- A rule with the contents of its body file. -/
structure RuleSource where
  rule : Rule
  /-- The canonical path of the body file. -/
  bodyPath : Path
  bytes : List UInt8

namespace FileTree

/-- The rule of a metadata file in a directory with the contents of its body file. -/
def source (tree : FileTree) (s : Selection) (directory : Path) (parsed : Json.Decoded Rule) :
    Except LoadStatus RuleSource :=
  match s.pick parsed with
  | .error status => .error status
  | .ok rule =>
    let named := directory.join ⟨rule.file⟩
    match tree.canonicalize named with
    | .error e => .error (.failed (.body named e))
    | .ok bodyPath =>
      match tree.read bodyPath with
      | .error e => .error (.failed (.body bodyPath e))
      | .ok bytes => .ok { rule, bodyPath, bytes }

/-- The loaded rule of a metadata file in a directory. -/
def loadRule (tree : FileTree) (s : Selection) (directory : Path) (parsed : Json.Decoded Rule) :
    Except LoadStatus LoadedRule :=
  match tree.source s directory parsed with
  | .error status => .error status
  | .ok source => source.rule.withNameArg.withBody source.bodyPath source.bytes

/-- The outcome of a metadata file in a directory. -/
def outcome (tree : FileTree) (s : Selection) (directory : Path) (parsed : Json.Decoded Rule) :
    LoadStatus :=
  match tree.loadRule s directory parsed with
  | .error status => status
  | .ok loaded => .registered loaded.rule.referenceId

/-- A metadata file with the outcome that it has on its own. -/
def result (tree : FileTree) (s : Selection) (f : ScannedFile) : LoadResult :=
  ⟨f.path, tree.outcome s f.directory f.parsed⟩

/-- The loaded rule of a metadata file under its reference id. -/
def registration? (tree : FileTree) (s : Selection) (f : ScannedFile) :
    Option (String × LoadedRule) :=
  (tree.loadRule s f.directory f.parsed).toOption.map fun loaded =>
    (loaded.rule.referenceId, loaded)

/-- The body file that is read for a metadata file, under the key of its canonical path. -/
def bodyEntry? (tree : FileTree) (s : Selection) (f : ScannedFile) :
    Option (String × List UInt8) :=
  (tree.source s f.directory f.parsed).toOption.map fun source =>
    (source.bodyPath.text.key, source.bytes)

/-- A metadata file registers a loaded rule under an id: its rule has that reference id and
passes the selection, and is loaded as this. -/
def Registers (tree : FileTree) (s : Selection) (f : ScannedFile) (id : String)
    (loaded : LoadedRule) : Prop :=
  ∃ rule, f.parsed = .ok rule ∧ s.screen rule = none ∧ rule.referenceId = id ∧
    loaded.Renders tree f.directory rule

end FileTree

variable {tree : FileTree} {s : Selection}

/-- A rule is picked if it is read and passes the screening. -/
theorem Selection.pick_eq_ok_iff {parsed : Json.Decoded Rule} {rule : Rule} :
    s.pick parsed = .ok rule ↔ parsed = .ok rule ∧ s.screen rule = none := by
  unfold pick
  rcases parsed with e | found
  · simp
  · simp only [Except.ok.injEq]
    constructor
    · intro h
      split at h
      · cases h
      · rename_i hscreen
        obtain rfl := Except.ok.inj h
        exact ⟨rfl, hscreen⟩
    · rintro ⟨rfl, hscreen⟩
      rw [hscreen]

namespace FileTree

/-- A rule has a source if it is picked and the file that it names is there to be read. -/
theorem source_eq_ok_iff {directory : Path} {parsed : Json.Decoded Rule} {source : RuleSource} :
    tree.source s directory parsed = .ok source ↔
      s.pick parsed = .ok source.rule ∧
        tree.canonicalize (directory.join ⟨source.rule.file⟩) = .ok source.bodyPath ∧
        tree.read source.bodyPath = .ok source.bytes := by
  unfold FileTree.source
  constructor
  · intro h
    split at h
    · cases h
    · rename_i hpick
      simp only at h
      split at h
      · cases h
      · rename_i hcanon
        split at h
        · cases h
        · rename_i hread
          obtain rfl := Except.ok.inj h
          exact ⟨hpick, hcanon, hread⟩
  · rintro ⟨hpick, hcanon, hread⟩
    simp only [hpick, hcanon, hread]

/-- **What it takes for a metadata file to give a loaded rule**, and which one. -/
theorem loadRule_eq_ok_iff {directory : Path} {parsed : Json.Decoded Rule} {loaded : LoadedRule} :
    tree.loadRule s directory parsed = .ok loaded ↔
      ∃ rule, parsed = .ok rule ∧ s.screen rule = none ∧ loaded.Renders tree directory rule := by
  unfold loadRule
  constructor
  · intro h
    split at h
    · cases h
    · rename_i source hsource
      obtain ⟨hpick, hcanon, hread⟩ := source_eq_ok_iff.1 hsource
      obtain ⟨hparsed, hscreen⟩ := Selection.pick_eq_ok_iff.1 hpick
      obtain ⟨hrule, hpath, hrender, hblank⟩ := Rule.withBody_eq_ok_iff.1 h
      refine ⟨source.rule, hparsed, hscreen, ⟨?_, fun key => ?_, ?_, ?_, hblank⟩⟩
      · rw [hrule]
        exact source.rule.withNameArg_eq
      · rw [hrule]
        exact source.rule.get?_templateArgs_withNameArg key
      · rw [hpath]
        exact hcanon
      · rw [hpath, hrule]
        exact ⟨source.bytes, hread, hrender⟩
  · rintro ⟨rule, hparsed, hscreen, h⟩
    obtain ⟨bytes, hread, hrender⟩ := h.render_eq
    have hsource : tree.source s directory parsed = .ok ⟨rule, loaded.bodyPath, bytes⟩ :=
      source_eq_ok_iff.2 ⟨Selection.pick_eq_ok_iff.2 ⟨hparsed, hscreen⟩, h.canonicalize_eq, hread⟩
    rw [hsource]
    rw [h.rule_eq_withNameArg] at hrender
    exact Rule.withBody_eq_ok_iff.2 ⟨h.rule_eq_withNameArg, rfl, hrender, h.not_blank⟩

/-- A metadata file without a loaded rule is not called registered. -/
theorem loadRule_ne_error_registered {directory : Path} {parsed : Json.Decoded Rule} {id : String} :
    tree.loadRule s directory parsed ≠ .error (.registered id) := by
  have hpick : s.pick parsed ≠ .error (.registered id) := by
    unfold Selection.pick
    split
    · simp
    · split <;> simp
  have hsource : tree.source s directory parsed ≠ .error (.registered id) := by
    unfold FileTree.source
    split
    · rename_i status hstatus
      intro h
      obtain rfl := Except.error.inj h
      exact hpick hstatus
    · simp only
      split
      · simp
      · split <;> simp
  unfold loadRule
  split
  · rename_i status hstatus
    intro h
    obtain rfl := Except.error.inj h
    exact hsource hstatus
  · exact Rule.withBody_ne_error_registered

/-- The registered metadata files are those with a loaded rule. -/
theorem outcome_eq_registered_iff {directory : Path} {parsed : Json.Decoded Rule} {id : String} :
    tree.outcome s directory parsed = .registered id ↔
      ∃ loaded, tree.loadRule s directory parsed = .ok loaded ∧ loaded.rule.referenceId = id := by
  unfold outcome
  rcases hload : tree.loadRule s directory parsed with status | loaded
  · simp only [reduceCtorEq, false_and, exists_false, iff_false]
    rintro rfl
    exact loadRule_ne_error_registered hload
  · simp

/-- A file is registered with the rule that it loads, under the id of this rule. -/
theorem registration?_eq_some_iff {f : ScannedFile} {id : String} {loaded : LoadedRule} :
    tree.registration? s f = some (id, loaded) ↔
      tree.loadRule s f.directory f.parsed = .ok loaded ∧ loaded.rule.referenceId = id := by
  unfold registration?
  rcases tree.loadRule s f.directory f.parsed with status | found
  · simp [Except.toOption]
  · simp only [Except.toOption, Option.map_some, Option.some.injEq, Prod.mk.injEq, Except.ok.injEq]
    constructor
    · rintro ⟨hid, rfl⟩
      exact ⟨rfl, hid⟩
    · rintro ⟨rfl, hid⟩
      exact ⟨hid, rfl⟩

/-- The body of a file is that of the source of its rule. -/
theorem bodyEntry?_eq_some_iff {f : ScannedFile} {k : String} {bytes : List UInt8} :
    tree.bodyEntry? s f = some (k, bytes) ↔
      ∃ source, tree.source s f.directory f.parsed = .ok source ∧ source.bodyPath.text.key = k ∧
        source.bytes = bytes := by
  unfold bodyEntry?
  rcases tree.source s f.directory f.parsed with status | source <;>
    simp [Except.toOption]

/-- To register a rule is to have a registration with it. -/
theorem registers_iff {f : ScannedFile} {id : String} {loaded : LoadedRule} :
    tree.Registers s f id loaded ↔ tree.registration? s f = some (id, loaded) := by
  rw [registration?_eq_some_iff, loadRule_eq_ok_iff]
  constructor
  · rintro ⟨rule, hparsed, hscreen, rfl, h⟩
    exact ⟨⟨rule, hparsed, hscreen, h⟩, h.referenceId_eq⟩
  · rintro ⟨⟨rule, hparsed, hscreen, h⟩, rfl⟩
    exact ⟨rule, hparsed, hscreen, h.referenceId_eq.symm, h⟩

/-- A metadata file with a rule that passes the selection registers it with what its body file
is rendered as. -/
theorem registers_of_body {f : ScannedFile} {rule : Rule} {bodyPath : Path} {bytes : List UInt8}
    {body : String} (hparsed : f.parsed = .ok rule) (hscreen : s.screen rule = none)
    (hcanon : tree.canonicalize (f.directory.join ⟨rule.file⟩) = .ok bodyPath)
    (hread : tree.read bodyPath = .ok bytes)
    (hrender : renderBody bytes rule.withNameArg.templateArgs = .ok body)
    (hblank : Text.isBlankText body = false) :
    tree.Registers s f rule.referenceId ⟨rule.withNameArg, body, bodyPath⟩ :=
  ⟨rule, hparsed, hscreen, rfl, rule.withNameArg_eq, rule.get?_templateArgs_withNameArg, hcanon,
    ⟨bytes, hread, hrender⟩, hblank⟩

/-- A file is registered under an id exactly if it registers a rule there. -/
theorem outcome_eq_registered_iff_registers {f : ScannedFile} {id : String} :
    tree.outcome s f.directory f.parsed = .registered id ↔
      ∃ loaded, tree.Registers s f id loaded := by
  rw [outcome_eq_registered_iff]
  refine exists_congr fun loaded => ?_
  rw [registers_iff, registration?_eq_some_iff]

end FileTree

end Rulebook
