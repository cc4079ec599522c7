/-
# Lists written with commas

Specification §10.3 (Configuration).

A text is read as a list of entries with commas between them, each without the blank characters at
its ends, and blank entries are dropped. A comma ends whatever stands in front of it, so a list is
read part by part (`splitList_append_comma`), and an entry by itself is read as it is
(`splitList_of_isEntry`). Joining entries with commas is undone from these two
(`splitList_intercalate`), and as reading gives nothing but entries (`isEntry_of_mem_splitList`), a
list is the same once it has been read and written again.
-/

import Rulebook.Config
import Rulebook.Proofs.Text.Split
import Rulebook.Proofs.Text.Trimmed

namespace Rulebook

/-- What can stand in a list by itself: a text that is not empty, with no comma in it and no blank
character at either end. -/
structure IsEntry (e : String) : Prop where
  nonempty : e ≠ ""
  no_comma : ',' ∉ e.toList
  trimmed : Text.Trimmed e.toList

/-- **What is read from a list can stand in one.** -/
theorem isEntry_of_mem_splitList {raw e : String} (h : e ∈ splitList raw) : IsEntry e := by
  rw [splitList, List.mem_map] at h
  obtain ⟨cs, hcs, rfl⟩ := h
  obtain ⟨hmem, hne⟩ := List.mem_filter.1 hcs
  obtain ⟨piece, hpiece, rfl⟩ := List.mem_map.1 hmem
  refine ⟨?_, ?_, ?_⟩
  · rw [Ne, ← String.toList_eq_nil_iff, String.toList_ofList]
    exact of_decide_eq_true hne
  · rw [String.toList_ofList]
    exact fun hcomma =>
      Text.not_mem_of_mem_splitAt hpiece ((Text.trimChars_infix piece).subset hcomma)
  · rw [String.toList_ofList]
    exact Text.trimmed_trimChars piece

/-- **A list is read part by part**, on both sides of a comma. -/
theorem splitList_append_comma (a b : String) :
    splitList (a ++ "," ++ b) = splitList a ++ splitList b := by
  have hsplit : Text.splitAt ',' (a ++ "," ++ b).toList =
      Text.splitAt ',' a.toList ++ Text.splitAt ',' b.toList := by
    rw [String.toList_append, String.toList_append, List.append_assoc]
    exact Text.splitAt_append_cons ',' a.toList b.toList
  rw [splitList, hsplit, List.map_append, List.filter_append, List.map_append]
  rfl

/-- The empty text has no parts. -/
theorem splitList_empty : splitList "" = [] := rfl

/-- An entry by itself is read as it is. -/
theorem splitList_of_isEntry {e : String} (h : IsEntry e) : splitList e = [e] := by
  have hkept : [e.toList].filter (· ≠ []) = [e.toList] := by
    simpa using mt String.toList_eq_nil_iff.1 h.nonempty
  rw [splitList, Text.splitAt_of_not_mem h.no_comma, List.map_singleton,
    Text.trimChars_of_trimmed h.trimmed, hkept, List.map_singleton, String.ofList_toList]

/-- **Joining entries with commas is undone.** -/
theorem splitList_intercalate {entries : List String} (h : ∀ e ∈ entries, IsEntry e) :
    splitList (",".intercalate entries) = entries := by
  induction entries with
  | nil => exact splitList_empty
  | cons e rest ih =>
    have he : splitList e = [e] := splitList_of_isEntry (h e (List.mem_cons_self ..))
    have hrest := ih fun e' he' => h e' (List.mem_cons_of_mem e he')
    rcases rest with _ | ⟨e', rest⟩
    · rw [String.intercalate_singleton, he]
    · rw [String.intercalate_cons_cons, splitList_append_comma, he, hrest, List.singleton_append]

/-- **Lists written with commas.**  Reading a text gives entries only: none is empty, holds a comma
or has a blank character at an end. Two texts with a comma between them are read one after the
other. A list of entries that is joined with commas is read as it was, so what has been read is
read the same when it is written again. -/
theorem splitList_undoes_joining :
    (∀ raw, ∀ e ∈ splitList raw, IsEntry e) ∧
    (∀ a b, splitList (a ++ "," ++ b) = splitList a ++ splitList b) ∧
    (∀ entries, (∀ e ∈ entries, IsEntry e) → splitList (",".intercalate entries) = entries) ∧
    ∀ raw, splitList (",".intercalate (splitList raw)) = splitList raw :=
  ⟨fun _ _ => isEntry_of_mem_splitList, splitList_append_comma, fun _ => splitList_intercalate,
    fun _ => splitList_intercalate fun _ => isEntry_of_mem_splitList⟩

/-- The hypotheses of `splitList_undoes_joining` are satisfiable: of a text with blank and empty
entries two are left, one of them with a blank character inside, and these are read the same when
they are written again. -/
theorem splitList_undoes_joining_two :
    splitList " ,a\u00a0b,,\u3000c " = ["a\u00a0b", "c"] ∧
      (∀ e ∈ splitList " ,a\u00a0b,,\u3000c ", IsEntry e) ∧
      (∀ e ∈ ["a\u00a0b", "c"], IsEntry e) ∧
      splitList (",".intercalate ["a\u00a0b", "c"]) = ["a\u00a0b", "c"] := by
  obtain ⟨hentries, -, hjoined, -⟩ := splitList_undoes_joining
  have hread : splitList " ,a\u00a0b,,\u3000c " = ["a\u00a0b", "c"] := by decide
  have htwo := hread ▸ hentries " ,a\u00a0b,,\u3000c "
  exact ⟨hread, hentries _, htwo, hjoined _ htwo⟩

end Rulebook
