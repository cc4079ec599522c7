/-
# Trimmed texts

A list of characters is trimmed if it neither begins nor ends with a blank character. Trimming
takes the blank characters off both ends one after the other. What is taken off the end leaves the
start as it is, unless nothing is left, so the result is trimmed (`trimmed_trimChars`); and a
trimmed list loses nothing (`trimChars_of_trimmed`).

What is taken off is blank, so a text is what trimming leaves of it with blank characters around it
(`spaced_trim`). Blank characters that are put around a text are taken off again, together with
those that have been there before (`Spaced.trim_eq`).
-/

import Rulebook.Text.Blank
import Mathlib.Data.List.DropRight

namespace Rulebook
namespace Text

/-- No blank character at either end. -/
structure Trimmed (cs : List Char) : Prop where
  head : ∀ c ∈ cs.head?, isBlank c = false
  getLast : ∀ c ∈ cs.getLast?, isBlank c = false

instance (cs : List Char) : Decidable (Trimmed cs) :=
  decidable_of_iff (cs.head?.all (!isBlank ·) ∧ cs.getLast?.all (!isBlank ·)) <| by
    simp only [Option.all_eq_true, Bool.not_eq_true']
    exact ⟨fun ⟨hhead, hlast⟩ => ⟨hhead, hlast⟩, fun ⟨hhead, hlast⟩ => ⟨hhead, hlast⟩⟩

/-- Trimming drops blank characters from the left and from the right. -/
theorem trimChars_eq (cs : List Char) :
    trimChars cs = (cs.dropWhile isBlank).rdropWhile isBlank :=
  rfl

/-- Trimming keeps a part of the text. -/
theorem trimChars_infix (cs : List Char) : trimChars cs <:+: cs := by
  rw [trimChars_eq]
  have hprefix := List.rdropWhile_prefix isBlank (cs.dropWhile isBlank)
  exact hprefix.isInfix.trans (List.dropWhile_suffix isBlank).isInfix

/-- **What has been trimmed is trimmed.** -/
theorem trimmed_trimChars (cs : List Char) : Trimmed (trimChars cs) := by
  rw [trimChars_eq]
  constructor
  · intro c hc
    -- what is taken off the end is behind the first character
    obtain ⟨back, hback⟩ := List.rdropWhile_prefix isBlank (cs.dropWhile isBlank)
    have hstart : (cs.dropWhile isBlank).head? = some c := by
      rw [← hback, List.head?_append, Option.mem_def.1 hc, Option.some_or]
    have hnot := List.head?_dropWhile_not isBlank cs
    rw [hstart] at hnot
    exact hnot
  · intro c hc
    obtain ⟨hne, rfl⟩ := List.mem_getLast?_eq_getLast hc
    exact Bool.eq_false_iff.2 (List.rdropWhile_last_not isBlank _ hne)

/-- **A trimmed text loses nothing.** -/
theorem trimChars_of_trimmed {cs : List Char} (h : Trimmed cs) : trimChars cs = cs := by
  have hstart : cs.dropWhile isBlank = cs := by
    rcases cs with _ | ⟨c, rest⟩
    · rfl
    · exact List.dropWhile_cons_of_neg (Bool.eq_false_iff.1 (h.head c rfl))
  rw [trimChars_eq, hstart, List.rdropWhile_eq_self_iff]
  intro hne
  exact Bool.eq_false_iff.1 (h.getLast _ (List.getLast?_eq_some_getLast hne))

/-! ### Blank characters around a text -/

/-- Blank characters at the ends do not count. -/
theorem trimChars_append_append {before after : List Char}
    (hbefore : ∀ c ∈ before, isBlank c = true) (hafter : ∀ c ∈ after, isBlank c = true)
    (cs : List Char) :
    trimChars (before ++ cs ++ after) = trimChars cs := by
  rw [trimChars_eq, trimChars_eq, List.append_assoc, List.dropWhile_append_of_pos hbefore,
    List.dropWhile_append]
  split
  · rename_i hempty
    -- nothing is left at the start, so the end of the text has been reached
    rw [List.isEmpty_iff.1 hempty, List.dropWhile_eq_nil_iff.2 hafter]
  · have hreverse : ∀ c ∈ after.reverse, isBlank c = true := fun c hc =>
      hafter c (List.mem_reverse.1 hc)
    rw [List.rdropWhile, List.reverse_append, List.dropWhile_append_of_pos hreverse]
    rfl

/-- What trimming takes off is blank. -/
theorem exists_append_trimChars_append (cs : List Char) :
    ∃ before after, (∀ c ∈ before, isBlank c = true) ∧ (∀ c ∈ after, isBlank c = true) ∧
      cs = before ++ trimChars cs ++ after := by
  refine ⟨cs.takeWhile isBlank, (cs.dropWhile isBlank).rtakeWhile isBlank,
    fun c => List.mem_takeWhile_imp, fun c => List.mem_rtakeWhile_imp, ?_⟩
  rw [trimChars_eq, List.append_assoc, List.rdropWhile_append_rtakeWhile,
    List.takeWhile_append_dropWhile]

/-- A text with blank characters put around it. -/
def Spaced (core s : String) : Prop :=
  ∃ before after, isBlankText before = true ∧ isBlankText after = true ∧
    s = before ++ core ++ after

/-- A text is blank if every character is. -/
theorem isBlankText_iff {s : String} : isBlankText s = true ↔ ∀ c ∈ s.toList, isBlank c = true :=
  List.all_eq_true

/-- **Trimming takes off what has been put around a text.** -/
theorem Spaced.trim_eq {core s : String} (h : Spaced core s) : trim s = trim core := by
  obtain ⟨before, after, hbefore, hafter, rfl⟩ := h
  rw [trim, trim, String.toList_append, String.toList_append,
    trimChars_append_append (isBlankText_iff.1 hbefore) (isBlankText_iff.1 hafter)]

/-- **A text is what trimming leaves of it, with blank characters around it.** -/
theorem spaced_trim (s : String) : Spaced (trim s) s := by
  obtain ⟨before, after, hbefore, hafter, hsplit⟩ := exists_append_trimChars_append s.toList
  refine ⟨String.ofList before, String.ofList after, isBlankText_iff.2 ?_, isBlankText_iff.2 ?_, ?_⟩
  · rwa [String.toList_ofList]
  · rwa [String.toList_ofList]
  · rw [trim, ← String.ofList_append, ← String.ofList_append, ← hsplit, String.ofList_toList]

/-- Nothing is left of a text exactly if it is blank. -/
theorem trim_eq_empty_iff {s : String} : trim s = "" ↔ isBlankText s = true := by
  constructor
  · intro h
    obtain ⟨before, after, hbefore, hafter, hsplit⟩ := spaced_trim s
    rw [h, String.append_empty] at hsplit
    rw [hsplit, isBlankText, String.toList_append, List.all_append, Bool.and_eq_true]
    exact ⟨hbefore, hafter⟩
  · intro h
    have hspaced : Spaced "" s := ⟨s, "", h, rfl, by rw [String.append_empty, String.append_empty]⟩
    exact hspaced.trim_eq

end Text
end Rulebook
