/-
# Severities are read alike everywhere

Specification §3 (Data Model).

A text that names a severity is read by itself, from a JSON string, as a cap, or as the minimum of a
configuration. Two rules of case meet here: the name of a severity is compared in upper case, beyond
ASCII too, so that `medıum` with a dotless `ı` is one; the word that mutes is compared up to the
case of ASCII letters only. They do not get in each other's way: the upper-case form of the word
that mutes is no name (`Severity.parse?_of_sameWord_none`), so a cap reads every other text as a
severity is read (`SeverityCap.parse?_eq_level_iff`).

Both rules are blind to blank characters around a text and to the case of ASCII letters, so the same
words are read alike (`Severity.parse?_congr`, `SeverityCap.parse?_congr`). The minimum of a
configuration is trimmed before it is read and trimmed again by the reader, which is one case of
this; only the complaint about it shows the difference.
-/

import Rulebook.Config
import Rulebook.Proofs.Json.Texts
import Rulebook.Proofs.Text.SameWord

namespace Rulebook

namespace Severity

variable {s t : String} {v : Severity}

/-- A name is that of the value it is read as. -/
theorem ofName?_eq_some_iff {name : String} : ofName? name = some v ↔ name = v.name := by
  constructor
  · intro h
    unfold ofName? at h
    split_ifs at h with hlow hmedium hhigh
    · obtain rfl := Option.some.inj h
      exact hlow
    · obtain rfl := Option.some.inj h
      exact hmedium
    · obtain rfl := Option.some.inj h
      exact hhigh
  · rintro rfl
    cases v <;> rfl

/-- **A text names a severity if its trimmed upper-case form is the name.** -/
theorem parse?_eq_some_iff : parse? s = some v ↔ Text.upper (Text.trim s) = v.name :=
  ofName?_eq_some_iff

/-- **The same words name the same severity.** -/
theorem parse?_congr (h : Text.SameWord s t) : parse? s = parse? t := by
  rw [parse?, parse?, h.upper_trim_eq]

/-- Blank characters around a text have no say in how it is read. -/
theorem parse?_trim (s : String) : parse? (Text.trim s) = parse? s :=
  parse?_congr (Text.sameWord_trim s)

/-- The word that mutes names no severity. -/
theorem parse?_of_sameWord_none (h : Text.SameWord s "none") : parse? s = none := by
  have hnone : parse? "none" = none := by decide
  rw [parse?_congr h, hnone]

/-- A severity is decoded by its parser, in the wording of its refusal. -/
theorem decode_eq : decode = Json.Decode.stringVia "a string" (Json.worded parse? refusal) := by
  refine congrArg (Json.Decode.stringVia "a string") (funext fun text => ?_)
  rw [Json.worded]
  cases parse? text <;> rfl

/-- A severity is decoded as its text is parsed. -/
theorem decodesBy : Json.DecodesBy decode parse? refusal := by
  rw [decode_eq]
  exact Json.decodesBy_stringVia "a string"

end Severity

namespace SeverityCap

variable {s t : String} {v : Severity}

/-- There are no blank characters around `none`. -/
theorem trim_none : Text.trim "none" = "none" := by decide

/-- The test for the word that mutes. -/
theorem mutes_iff :
    Text.eqIgnoreAsciiCase (Text.trim s) "none" = true ↔ Text.SameWord s "none" := by
  rw [Text.eqIgnoreAsciiCase_iff, Text.sameWord_iff, trim_none]

/-- A text that spells `none` is read as the mute. -/
theorem parse?_of_sameWord (h : Text.SameWord s "none") : parse? s = some .mute := by
  rw [parse?, if_pos (mutes_iff.2 h)]

/-- Any other text is read as a severity. -/
theorem parse?_of_not_sameWord (h : ¬ Text.SameWord s "none") :
    parse? s = (Severity.parse? s).map .level := by
  rw [parse?, if_neg (mt mutes_iff.1 h)]

/-- Only the spellings of `none` are read as the mute. -/
theorem parse?_eq_mute_iff_sameWord : parse? s = some .mute ↔ Text.SameWord s "none" := by
  by_cases h : Text.SameWord s "none"
  · simp only [parse?_of_sameWord h, h]
  · rw [parse?_of_not_sameWord h]
    cases Severity.parse? s <;> simp [h]

/-- **A cap mutes exactly if its text is the word for it**, in some case and with blank characters
around it. -/
theorem parse?_eq_mute_iff :
    parse? s = some .mute ↔ ∃ word, Text.Spaced word s ∧ Text.Recased word "none" :=
  parse?_eq_mute_iff_sameWord.trans (Text.sameWord_iff_of_trim_eq trim_none)

/-- **A cap is a severity exactly if its text names this severity.** -/
theorem parse?_eq_level_iff : parse? s = some (.level v) ↔ Severity.parse? s = some v := by
  by_cases h : Text.SameWord s "none"
  · rw [parse?_of_sameWord h, Severity.parse?_of_sameWord_none h]
    simp
  · rw [parse?_of_not_sameWord h]
    simp

/-- A text that mutes names no severity. -/
theorem severity_parse?_eq_none (h : parse? s = some .mute) : Severity.parse? s = none :=
  Severity.parse?_of_sameWord_none (parse?_eq_mute_iff_sameWord.1 h)

/-- **The same words make the same cap.** -/
theorem parse?_congr (h : Text.SameWord s t) : parse? s = parse? t := by
  by_cases hmute : Text.SameWord t "none"
  · rw [parse?_of_sameWord hmute, parse?_of_sameWord (h.trans hmute)]
  · have hmute' : ¬ Text.SameWord s "none" := fun h' => hmute (h.symm.trans h')
    rw [parse?_of_not_sameWord hmute, parse?_of_not_sameWord hmute', Severity.parse?_congr h]

/-- A cap is decoded by its parser, in the wording of a severity's refusal. -/
theorem decode_eq :
    decode = Json.Decode.stringVia "a string" (Json.worded parse? Severity.refusal) := by
  refine congrArg (Json.Decode.stringVia "a string") (funext fun text => ?_)
  rw [Json.worded]
  cases parse? text <;> rfl

/-- A cap is decoded as its text is parsed. -/
theorem decodesBy : Json.DecodesBy decode parse? Severity.refusal := by
  rw [decode_eq]
  exact Json.decodesBy_stringVia "a string"

end SeverityCap

namespace PolicyConfig

variable {c : PolicyConfig} {text : String}

/-- A blank text asks for no minimum severity. -/
theorem minimumSeverity_of_blank (h : ∀ text ∈ c.severity, Text.isBlankText text = true) :
    c.minimumSeverity = .ok none := by
  rw [minimumSeverity]
  rcases hseverity : c.severity with _ | text
  · rfl
  · have hempty : Text.trim text = "" := Text.trim_eq_empty_iff.2 (h text hseverity)
    simp only [Option.map_some, hempty, if_pos]

/-- What a text that is not blank makes the minimum severity. -/
theorem minimumSeverity_of_not_blank (h : c.severity = some text)
    (hblank : Text.isBlankText text = false) :
    c.minimumSeverity =
      match Severity.parse? text with
      | some v => .ok (some v)
      | none => .error (.invalidSeverity (Text.trim text)) := by
  have hnonempty : Text.trim text ≠ "" := by
    rw [Ne, Text.trim_eq_empty_iff, hblank]
    exact Bool.false_ne_true
  rw [minimumSeverity, h]
  rcases hparse : Severity.parse? text with _ | v
  · simp only [Option.map_some, if_neg hnonempty, Severity.parse?_trim, hparse]
  · simp only [Option.map_some, if_neg hnonempty, Severity.parse?_trim, hparse]

/-- **There is no minimum exactly if none is written, or a blank one.** -/
theorem minimumSeverity_eq_ok_none_iff :
    c.minimumSeverity = .ok none ↔ ∀ text ∈ c.severity, Text.isBlankText text = true := by
  refine ⟨fun h text hseverity => ?_, minimumSeverity_of_blank⟩
  by_contra hblank
  rw [Bool.not_eq_true] at hblank
  rw [minimumSeverity_of_not_blank hseverity hblank] at h
  cases hparse : Severity.parse? text <;> simp [hparse] at h

/-- **A minimum that is not blank is read like any severity.** -/
theorem minimumSeverity_eq_ok_some_iff (h : c.severity = some text)
    (hblank : Text.isBlankText text = false) {v : Severity} :
    c.minimumSeverity = .ok (some v) ↔ Severity.parse? text = some v := by
  rw [minimumSeverity_of_not_blank h hblank]
  cases Severity.parse? text <;> simp

/-- The complaint about a minimum shows it trimmed. -/
theorem minimumSeverity_eq_error_iff (h : c.severity = some text)
    (hblank : Text.isBlankText text = false) {e : ConfigError} :
    c.minimumSeverity = .error e ↔
      Severity.parse? text = none ∧ e = .invalidSeverity (Text.trim text) := by
  rw [minimumSeverity_of_not_blank h hblank]
  cases Severity.parse? text <;> simp [eq_comm]

end PolicyConfig

/-- **Severities are read alike everywhere.**  A text names a severity if its trimmed upper-case
form is the name. It is the cap that mutes if it is the word `none` in any case of ASCII letters,
with blank characters around it, and otherwise the cap at the severity that it names; no text is
both. Texts that are the same word, up to blank characters around it and the case of ASCII letters,
are read alike. From JSON exactly the strings whose text is read are accepted, with the same result,
and a refusal quotes the text as it is written. A configuration sets no minimum exactly if it has no
text for it or a blank one; any other text is read as a severity, and the complaint shows it
trimmed. -/
theorem severities_read_alike :
    (∀ s v, Severity.parse? s = some v ↔ Text.upper (Text.trim s) = v.name) ∧
    (∀ s, SeverityCap.parse? s = some .mute ↔
      ∃ word, Text.Spaced word s ∧ Text.Recased word "none") ∧
    (∀ s v, SeverityCap.parse? s = some (.level v) ↔ Severity.parse? s = some v) ∧
    (∀ s, SeverityCap.parse? s = some .mute → Severity.parse? s = none) ∧
    (∀ s t, Text.SameWord s t →
      Severity.parse? s = Severity.parse? t ∧ SeverityCap.parse? s = SeverityCap.parse? t) ∧
    Json.DecodesBy Severity.decode Severity.parse? Severity.refusal ∧
    Json.DecodesBy SeverityCap.decode SeverityCap.parse? Severity.refusal ∧
    (∀ c : PolicyConfig, c.minimumSeverity = .ok none ↔
      ∀ text ∈ c.severity, Text.isBlankText text = true) ∧
    ∀ (c : PolicyConfig) text, c.severity = some text → Text.isBlankText text = false →
      (∀ v, c.minimumSeverity = .ok (some v) ↔ Severity.parse? text = some v) ∧
      ∀ e, c.minimumSeverity = .error e ↔
        Severity.parse? text = none ∧ e = .invalidSeverity (Text.trim text) :=
  ⟨fun _ _ => Severity.parse?_eq_some_iff, fun _ => SeverityCap.parse?_eq_mute_iff,
    fun _ _ => SeverityCap.parse?_eq_level_iff, fun _ => SeverityCap.severity_parse?_eq_none,
    fun _ _ h => ⟨Severity.parse?_congr h, SeverityCap.parse?_congr h⟩, Severity.decodesBy,
    SeverityCap.decodesBy, fun _ => PolicyConfig.minimumSeverity_eq_ok_none_iff,
    fun _ _ h hblank => ⟨fun _ => PolicyConfig.minimumSeverity_eq_ok_some_iff h hblank,
      fun _ => PolicyConfig.minimumSeverity_eq_error_iff h hblank⟩⟩

/-- The hypotheses of `severities_read_alike` are satisfiable: the name with a dotless letter is
read between blank characters and in small letters as it is in capital ones, also as a minimum; the
word that mutes is read from a document, and is refused as a minimum without the blank
characters. -/
theorem severities_read_alike_dotless :
    Text.SameWord "\u2003mEdıum\n" "MEDıUM" ∧
      Severity.parse? "\u2003mEdıum\n" = some .medium ∧
      Text.isBlankText "\u2003mEdıum\n" = false ∧
      ({ severity := some "\u2003mEdıum\n" } : PolicyConfig).minimumSeverity = .ok (some .medium) ∧
      SeverityCap.parse? "\u00a0NoNe" = some .mute ∧
      Severity.parse? "\u00a0NoNe" = none ∧
      Json.decodeBytes SeverityCap.decode (Text.encodeUtf8 "\"\\u00a0NoNe\"") = .ok .mute ∧
      Text.isBlankText "\u00a0NoNe" = false ∧
      ({ severity := some "\u00a0NoNe" } : PolicyConfig).minimumSeverity =
        .error (.invalidSeverity "NoNe") := by
  obtain ⟨hname, hmute, -, hapart, hwords, -, hcap, -, hminimum⟩ := severities_read_alike
  have hword : Text.SameWord "\u2003mEdıum\n" "MEDıUM" := by decide +kernel
  have hcapitals : Severity.parse? "MEDıUM" = some .medium := (hname _ _).2 (by decide +kernel)
  have hmedium : Severity.parse? "\u2003mEdıum\n" = some .medium :=
    (hwords _ _ hword).1.trans hcapitals
  have hshown : Text.isBlankText "\u2003mEdıum\n" = false := by decide
  have hmuted : SeverityCap.parse? "\u00a0NoNe" = some .mute :=
    (hmute _).2 ⟨"NoNe", ⟨"\u00a0", "", by decide, by decide, by decide⟩, by decide⟩
  have hnone : Severity.parse? "\u00a0NoNe" = none := hapart _ hmuted
  have hdocument : Json.decodeBytes Json.Decode.string (Text.encodeUtf8 "\"\\u00a0NoNe\"") =
      .ok "\u00a0NoNe" := by
    cbv
  have hshown' : Text.isBlankText "\u00a0NoNe" = false := by decide
  have hminimum' := (hminimum { severity := some "\u00a0NoNe" } _ rfl hshown').2
  exact ⟨hword, hmedium, hshown, ((hminimum _ _ rfl hshown).1 _).2 hmedium, hmuted, hnone,
    (hcap.document _ _).2 ⟨_, hdocument, hmuted⟩, hshown',
    (hminimum' _).2 ⟨hnone, by decide⟩⟩

end Rulebook
