/-
# Reading a name by itself

Where an operand can stand a name is a variable, unless it means something else there (`isKeyword`).
With nothing behind it nothing is read at any level of the grammar, so each level gives what the
tighter one gives (`Expr.readLevel_name`), from the parts of an operand (level 8) up to an
expression (`Expr.take_name`). A tag with such a name in it writes the variable
(`Stmt.addPiece_placeholder`).
-/

import Rulebook.Template.Statement
import Mathlib.Data.Nat.Init

namespace Rulebook
namespace Template

/-- The name is no variable even where an operand can stand: it is a literal, or the operator that
stands in front of its operand. All other words of the grammar are variables there. -/
def isKeyword (name : String) : Bool :=
  ["true", "True", "false", "False", "none", "None", "not"].contains name

/-- A name that is not the word is left where it is. -/
theorem Reader.word?_name {w name : String} (h : w ≠ name) :
    (word? w).run [.name name] = .ok (false, [.name name]) := by
  have hat : (atWord? w).run [.name name] = .ok (decide (w = name), [.name name]) := rfl
  rw [word?, StateT.run_bind, hat, decide_eq_false h]
  rfl

namespace Expr

/-! ### Nothing behind an operand -/

/-- At the end there is no choice to read. -/
theorem readChoice_nil (fuel room : Nat) (e : Expr) :
    (readChoice (fuel + 1) room e).run [] = .ok (e, []) := by
  rw [readChoice]
  rfl

/-- At the end there are no comparisons to read. -/
theorem readComparisons_nil (fuel room : Nat) :
    (readComparisons (fuel + 1) room).run [] = .ok ([], []) := by
  rw [readComparisons]
  rfl

/-- At the end there are no operators to read. -/
theorem readOperators_nil (fuel room level : Nat) (e : Expr) :
    (readOperators (fuel + 1) room level e).run [] = .ok (e, []) := by
  rw [readOperators]
  rfl

/-- At the end there are no parts to read. -/
theorem readParts_nil (fuel room : Nat) (e : Expr) :
    (readParts (fuel + 1) room e).run [] = .ok (e, []) := by
  rw [readParts]
  rfl

/-- At the end there are no filters to read. -/
theorem readFilters_nil (fuel room : Nat) (e : Expr) :
    (readFilters (fuel + 1) room e).run [] = .ok (e, []) := by
  rw [readFilters]
  rfl

/-! ### A variable -/

variable {name : String} (h : isKeyword name = false)
include h

/-- A name is read as a variable. -/
theorem readPrimary_name (fuel room : Nat) :
    (readPrimary (fuel + 1) room).run [.name name] = .ok (.var name, []) := by
  rw [readPrimary]
  simp only [StateT.run_bind, StateT.run_get, StateT.run_set, pure_bind]
  -- every other case is that of a literal
  split
  case h_7 => rfl
  all_goals exact absurd h (by decide)

/-- A name is read as a variable where a sign could stand. -/
theorem readSigned_name (fuel room : Nat) :
    (readSigned (fuel + 2) (room + 1)).run [.name name] = .ok (.var name, []) := by
  rw [readSigned]
  exact readPrimary_name h fuel room

/-- **A variable by itself is an operand of every level.** -/
theorem readLevel_name (room : Nat) {level : Nat} (hlevel : level ≤ 8) (fuel : Nat) :
    (readLevel (fuel + (11 - level)) (room + 1) level).run [.name name] = .ok (.var name, []) := by
  induction hlevel using Nat.decreasingInduction with
  | self =>
    rw [readLevel, if_neg (by decide), if_neg (by decide), if_neg (by decide)]
    simp only [StateT.run_bind]
    rw [readSigned_name h]
    show (readParts (fuel + 1 + 1) (room + 1) (.var name)).run [] >>= _ = _
    rw [readParts_nil]
    exact readFilters_nil (fuel + 1) (room + 1) (.var name)
  | of_succ level hlt ih =>
    obtain ⟨more, hmore⟩ : ∃ more, fuel + (11 - (level + 1)) = more + 1 :=
      ⟨fuel + (9 - level), by omega⟩
    have hfuel : fuel + (11 - level) = more + 1 + 1 := by omega
    rw [hmore] at ih
    rw [hfuel, readLevel]
    by_cases htwo : level = 2
    · subst htwo
      have hnot : (Reader.word? "not").run [.name name] = .ok (false, [.name name]) :=
        Reader.word?_name (by rintro rfl; exact absurd h (by decide))
      rw [if_pos rfl, StateT.run_bind, hnot]
      exact ih
    · rw [if_neg htwo]
      by_cases hthree : level = 3
      · subst hthree
        rw [if_pos rfl, StateT.run_bind, ih]
        show (readComparisons (more + 1) (room + 1)).run [] >>= _ = _
        rw [readComparisons_nil]
        rfl
      · rw [if_neg hthree, if_pos hlt, StateT.run_bind, ih]
        exact readOperators_nil more (room + 1) level (.var name)

/-- A name by itself is read as a variable. -/
theorem read_name (fuel room : Nat) :
    (read (fuel + 13) (room + 2)).run [.name name] = .ok (.var name, []) := by
  have hdescend : (Reader.descend (room + 2)).run [.name name] = .ok (room + 1, [.name name]) :=
    rfl
  rw [read, StateT.run_bind, hdescend]
  show (readAlternatives (fuel + 12) (room + 1)).run [.name name] = _
  rw [readAlternatives, StateT.run_bind, readLevel_name h room (Nat.zero_le 8) fuel]
  exact readChoice_nil (fuel + 10) (room + 1) (.var name)

/-- **A variable by itself is an expression.** -/
theorem take_name (room : Nat) :
    (take (room + 2)).run [.name name] = .ok (.var name, []) := by
  have hfuel : fuelFor [.name name] = 47 + 13 := rfl
  rw [take, StateT.run_bind, StateT.run_get, pure_bind]
  dsimp only
  rw [hfuel, read_name h]

end Expr

/-- **A tag with nothing but a variable in it writes this variable.** -/
theorem Stmt.addPiece_placeholder {name : String} (h : isKeyword name = false)
    (body : List Stmt) :
    addPiece ⟨[], body⟩ (.tag .output [.name name]) = .ok ⟨[], .output (.var name) :: body⟩ := by
  have hroom : Outline.room ⟨[], body⟩ = 148 + 2 := rfl
  have hwhole : whole (Expr.take (148 + 2)) [.name name] = .ok (.var name) := by
    unfold whole
    rw [StateT.run_bind, Expr.take_name h 148]
    rfl
  rw [addPiece, hroom, hwhole]
  rfl

end Template
end Rulebook
