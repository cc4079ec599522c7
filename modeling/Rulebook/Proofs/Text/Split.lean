/-
# Pieces and separators

The separator stands in no piece of a text (`not_mem_of_mem_splitAt`), so a text that is one piece
is one without a separator, and conversely (`splitAt_of_not_mem`).
-/

import Rulebook.Text.Split

namespace Rulebook
namespace Text

variable {α : Type u} [DecidableEq α] {sep : α} {cs piece : List α}

/-- A text without a separator is one piece. -/
theorem splitAt_of_not_mem (h : sep ∉ cs) : splitAt sep cs = [cs] := by
  induction cs with
  | nil => rfl
  | cons c rest ih =>
    rw [List.mem_cons, not_or] at h
    rw [splitAt, if_neg (Ne.symm h.1), ih h.2]

/-- No piece has a separator in it. -/
theorem not_mem_of_mem_splitAt (h : piece ∈ splitAt sep cs) : sep ∉ piece := by
  induction cs generalizing piece with
  | nil =>
    obtain rfl := List.mem_singleton.1 h
    exact List.not_mem_nil
  | cons c rest ih =>
    rw [splitAt] at h
    by_cases hc : c = sep
    · rw [if_pos hc] at h
      rcases List.mem_cons.1 h with rfl | hmem
      · exact List.not_mem_nil
      · exact ih hmem
    · rw [if_neg hc] at h
      rcases hpieces : splitAt sep rest with _ | ⟨first, more⟩
      · exact absurd hpieces (splitAt_ne_nil sep rest)
      · rw [hpieces] at h ih
        rcases List.mem_cons.1 h with rfl | hmem
        · have hfirst : sep ∉ first := ih (List.mem_cons_self ..)
          exact fun hmem => (List.mem_cons.1 hmem).elim (Ne.symm hc) hfirst
        · exact ih (List.mem_cons_of_mem first hmem)

end Text
end Rulebook
