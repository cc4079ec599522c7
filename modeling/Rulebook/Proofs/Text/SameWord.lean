/-
# Texts that are the same word

Two texts are the same word if one can be made of the other by putting blank characters around it,
by taking them off, and by changing the case of ASCII letters, in any number of steps
(`Text.SameWord`). One step of each kind is enough: trim both texts, and compare what is left up to
case (`Text.sameWord_iff`). What makes this work is that no letter is blank in either case, so that
trimming commutes with a change of case (`Text.Recased.trim`).

Upper case does not tell the two cases of an ASCII letter apart (`Text.Recased.upper_eq`), so the
same words have the same trimmed upper-case form. The converse fails, as upper case also goes beyond
ASCII and may change the length of a text.
-/

import Rulebook.Proofs.Text.AsciiCase
import Rulebook.Proofs.Text.Trimmed

namespace Rulebook
namespace Text

/-! ### The case of one letter -/

/-- The letter case has no say in what is blank. -/
theorem isBlank_toLower (c : Char) : isBlank c.toLower = isBlank c := by
  unfold isBlank
  rw [toNat_toLower]
  split
  · rename_i hletter
    -- a capital letter and the small one to it are between the blank characters of ASCII and 0x85
    rw [Bool.eq_iff_iff]
    simp only [Bool.or_eq_true, Bool.and_eq_true, decide_eq_true_eq, beq_iff_eq]
    omega
  · rfl

/-- A character of ASCII has the capital letter of its small one. -/
theorem toUpper_toLower_of_lt (n : Fin 128) :
    (Char.ofNat n).toLower.toUpper = (Char.ofNat n).toUpper := by
  decide +revert +kernel

/-- A character has the capitals of its small letter. -/
theorem upperChar_toLower (c : Char) : upperChar c.toLower = upperChar c := by
  by_cases hletter : 65 ≤ c.toNat ∧ c.toNat ≤ 90
  · have hlower : c.toLower.toNat < 128 := by
      rw [toNat_toLower, if_pos hletter]
      omega
    have hascii : c.toNat < 128 := by omega
    have hupper := toUpper_toLower_of_lt ⟨c.toNat, hascii⟩
    rw [Char.ofNat_toNat] at hupper
    rw [upperChar, if_pos hlower, upperChar, if_pos hascii, hupper]
  · have hself : c.toLower = c := by
      rw [← Char.toNat_inj, toNat_toLower, if_neg hletter]
    rw [hself]

/-! ### Trimming and upper case up to the case of letters -/

/-- Trimming and small letters do not get in each other's way. -/
theorem trimChars_map_toLower (cs : List Char) :
    trimChars (cs.map Char.toLower) = (trimChars cs).map Char.toLower := by
  have hblank : isBlank ∘ Char.toLower = isBlank := funext isBlank_toLower
  simp only [trimChars, stripBoth, List.dropWhile_map, ← List.map_reverse, hblank]

variable {s t : String}

/-- **Trimming keeps texts the same up to case.** -/
theorem Recased.trim (h : Recased s t) : Recased (trim s) (trim t) := by
  rw [recased_iff] at h ⊢
  rw [Text.trim, Text.trim, String.toList_ofList, String.toList_ofList, ← trimChars_map_toLower,
    ← trimChars_map_toLower, h]

/-- **Texts that are the same up to case have one upper-case form.** -/
theorem Recased.upper_eq (h : Recased s t) : upper s = upper t := by
  have hlower (s : String) : s.toList.flatMap upperChar =
      (s.toList.map Char.toLower).flatMap upperChar := by
    rw [List.flatMap_map]
    exact List.flatMap_congr fun c _ => (upperChar_toLower c).symm
  rw [upper, upper, hlower s, hlower t, recased_iff.1 h]

/-! ### Words -/

/-- The same text, up to blank characters around it and up to the case of ASCII letters. -/
inductive SameWord : String → String → Prop
  | spaced {s t : String} : Spaced s t → SameWord s t
  | recased {s t : String} : Recased s t → SameWord s t
  | symm {s t : String} : SameWord s t → SameWord t s
  | trans {s t u : String} : SameWord s t → SameWord t u → SameWord s u

/-- A text is the same word as what trimming leaves of it. -/
theorem sameWord_trim (s : String) : SameWord (trim s) s := .spaced (spaced_trim s)

/-- **Texts are the same word exactly if they are the same up to case once they are trimmed.** -/
theorem sameWord_iff : SameWord s t ↔ Recased (trim s) (trim t) := by
  constructor
  · intro h
    -- each step that makes one text of the other is undone by trimming, or kept by it
    induction h with
    | spaced h => exact h.trim_eq ▸ Recased.refl _
    | recased h => exact h.trim
    | symm _ ih => exact ih.symm
    | trans _ _ ih ih' => exact ih.trans ih'
  · intro h
    exact (sameWord_trim s).symm.trans ((SameWord.recased h).trans (sameWord_trim t))

instance (s t : String) : Decidable (SameWord s t) := decidable_of_iff' _ sameWord_iff

/-- The same word as a text that is trimmed is this text in some case, with blank characters around
it. -/
theorem sameWord_iff_of_trim_eq (ht : trim t = t) :
    SameWord s t ↔ ∃ word, Spaced word s ∧ Recased word t := by
  constructor
  · intro h
    have hword := sameWord_iff.1 h
    rw [ht] at hword
    exact ⟨trim s, spaced_trim s, hword⟩
  · rintro ⟨word, hspaced, hrecased⟩
    exact (SameWord.spaced hspaced).symm.trans (.recased hrecased)

/-- The same words have one trimmed upper-case form. -/
theorem SameWord.upper_trim_eq (h : SameWord s t) : upper (trim s) = upper (trim t) :=
  (sameWord_iff.1 h).upper_eq

/-- Upper case makes one of texts that are not the same word. -/
example : upper (trim "ß") = upper (trim "ss") ∧ ¬ SameWord "ß" "ss" := by decide +kernel

end Text
end Rulebook
