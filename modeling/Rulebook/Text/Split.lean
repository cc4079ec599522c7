/-
# Splitting a text at a character

`splitAt sep` gives the pieces of a text between the separators, empty ones included, so
a text without a separator is one piece. Splitting a text that was glued together with a
separator gives the pieces of both parts (`splitAt_append_cons`). What is split may be the
characters of a text or its bytes.
-/

namespace Rulebook
namespace Text

variable {α : Type u} [DecidableEq α]

/-- The pieces of a list of characters between the separators. -/
def splitAt (sep : α) : List α → List (List α)
  | [] => [[]]
  | c :: rest =>
    if c = sep then [] :: splitAt sep rest
    else
      match splitAt sep rest with
      | [] => [[c]]
      | piece :: more => (c :: piece) :: more

/-- Every text has a piece. -/
theorem splitAt_ne_nil (sep : α) (cs : List α) : splitAt sep cs ≠ [] := by
  cases cs with
  | nil => simp [splitAt]
  | cons c rest =>
    unfold splitAt
    split
    · simp
    · split <;> simp

/-- What is glued together with a separator has the pieces of both parts. -/
theorem splitAt_append_cons (sep : α) (a b : List α) :
    splitAt sep (a ++ sep :: b) = splitAt sep a ++ splitAt sep b := by
  induction a with
  | nil => simp [splitAt]
  | cons c rest ih =>
    simp only [List.cons_append, splitAt, ih]
    split
    · rfl
    · cases h : splitAt sep rest with
      | nil => exact absurd h (splitAt_ne_nil sep rest)
      | cons piece more => rfl

end Text
end Rulebook
