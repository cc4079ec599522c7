/-
# Texts up to the case of ASCII letters

Two texts are the same up to the case of ASCII letters if they are so character by character
(`Text.Recased`). Comparing their lower-case forms tests just this (`Text.eqIgnoreAsciiCase_iff`),
so it is an equivalence, and what it says of two texts does not change when the case of letters is
changed in either of them (`Text.Recased.congr`). Letters beyond ASCII have to be equal as they
are.
-/

import Mathlib
import Rulebook.Text.Case

namespace Rulebook
namespace Text

/-- A capital ASCII letter and the small letter to it. -/
def IsCapitalOf (c d : Char) : Prop := 'A' ≤ c ∧ c ≤ 'Z' ∧ d.toNat = c.toNat + 32

/-- The same character, up to the case of an ASCII letter. -/
def SameLetter (c d : Char) : Prop := c = d ∨ IsCapitalOf c d ∨ IsCapitalOf d c

/-- The same text, up to the case of ASCII letters. -/
def Recased (s t : String) : Prop := List.Forall₂ SameLetter s.toList t.toList

/-- The small letter of a capital one is 32 behind it, and others stay as they are. -/
theorem toNat_toLower (c : Char) :
    c.toLower.toNat = if 65 ≤ c.toNat ∧ c.toNat ≤ 90 then c.toNat + 32 else c.toNat := by
  have hcapital : (c.val ≥ 'A'.val ∧ c.val ≤ 'Z'.val) ↔ 65 ≤ c.toNat ∧ c.toNat ≤ 90 := Iff.rfl
  unfold Char.toLower
  by_cases h : c.val ≥ 'A'.val ∧ c.val ≤ 'Z'.val
  · rw [dif_pos h, if_pos (hcapital.1 h)]
    have hle := (hcapital.1 h).2
    show (c.val + 32).toNat = c.val.toNat + 32
    rw [UInt32.toNat_add]
    exact Nat.mod_eq_of_lt (show c.toNat + 32 < 2 ^ 32 by omega)
  · rw [dif_neg h, if_neg (mt hcapital.2 h)]

/-- Characters have one small letter if they differ in ASCII case at most. -/
theorem toLower_eq_toLower_iff {c d : Char} : c.toLower = d.toLower ↔ SameLetter c d := by
  have hcapital (c d : Char) :
      IsCapitalOf c d ↔ 65 ≤ c.toNat ∧ c.toNat ≤ 90 ∧ d.toNat = c.toNat + 32 := Iff.rfl
  rw [SameLetter, hcapital, hcapital, ← Char.toNat_inj, ← Char.toNat_inj, toNat_toLower,
    toNat_toLower]
  split <;> split <;> omega

/-- **The test for equality up to the case of ASCII letters.** -/
theorem eqIgnoreAsciiCase_iff {s t : String} : eqIgnoreAsciiCase s t = true ↔ Recased s t := by
  rw [eqIgnoreAsciiCase, beq_iff_eq, ← List.forall₂_eq_eq_eq, List.forall₂_map_left_iff,
    List.forall₂_map_right_iff]
  simp only [toLower_eq_toLower_iff, Recased]

instance (s t : String) : Decidable (Recased s t) := decidable_of_iff _ eqIgnoreAsciiCase_iff

/-- Texts are the same up to case if their lower-case forms are equal. -/
theorem recased_iff {s t : String} :
    Recased s t ↔ s.toList.map Char.toLower = t.toList.map Char.toLower := by
  rw [← eqIgnoreAsciiCase_iff, eqIgnoreAsciiCase, beq_iff_eq]

/-- A text differs from itself in case at most. -/
theorem Recased.refl (s : String) : Recased s s := recased_iff.2 rfl

/-- To differ in case at most is symmetric. -/
theorem Recased.symm {s t : String} (h : Recased s t) : Recased t s :=
  recased_iff.2 (recased_iff.1 h).symm

/-- To differ in case at most is transitive. -/
theorem Recased.trans {s t u : String} (h : Recased s t) (h' : Recased t u) : Recased s u :=
  recased_iff.2 ((recased_iff.1 h).trans (recased_iff.1 h'))

/-- Changing the case of letters on both sides does not change whether two texts are the same up
to case. -/
theorem Recased.congr {s s' t t' : String} (hs : Recased s s') (ht : Recased t t') :
    Recased s t ↔ Recased s' t' :=
  ⟨fun h => hs.symm.trans (h.trans ht), fun h => hs.trans (h.trans ht.symm)⟩

/-- Only the empty text is the same as the empty one. -/
theorem Recased.eq_empty_iff {s t : String} (h : Recased s t) : s = "" ↔ t = "" := by
  rw [← String.toList_eq_nil_iff, ← String.toList_eq_nil_iff, ← List.length_eq_zero_iff,
    ← List.length_eq_zero_iff, List.Forall₂.length_eq h]

end Text
end Rulebook
