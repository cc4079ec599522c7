/-
# Upper case is final

A text in upper case is its own upper-case form (`Text.upper_upper`). Case goes character by
character, so this says of every character that upper case produces that it is not mapped any
further.

Which codes are mapped is listed by `Text.upperRuns`, as runs; a code that none of these covers
is settled. That the tables of `Rulebook.Text.CaseTable` map to settled codes only is a comparison
of the tables with themselves. It is made run against run (`CaseRun.misses`), by the ends of the
runs and the parity of their codes, since a run that takes every second code is interleaved with
its own images.
-/

import Mathlib
import Rulebook.Text.Case

namespace Rulebook
namespace Text

/-! ### Runs -/

namespace CaseRun

/-- A run maps a code. -/
def Covers (r : CaseRun) (code : Nat) : Prop :=
  r.first ≤ code ∧ code ≤ r.last ∧ (code - r.first) % r.stride = 0

/-- The first and the last image of a run. -/
def imageEnds (r : CaseRun) : Nat × Nat := ((r.first + r.shift).toNat, (r.last + r.shift).toNat)

/-- The images of a run are not covered by another one: they lie in front of its codes or behind
them, or between them where it takes every second code. -/
def misses (r r' : CaseRun) : Bool :=
  Nat.blt r.imageEnds.2 r'.first || Nat.blt r'.last r.imageEnds.1 ||
    (r'.stride == 2 && (r.stride == 2 || r.first == r.last) &&
      (r.imageEnds.1 + r'.first) % 2 == 1)

/-- What a run makes of a character is not covered by a run that it misses. -/
theorem not_covers_of_misses {r r' : CaseRun} (hr : 0 ≤ r.first + r.shift)
    (h : r.misses r' = true) {code : Nat} (hcode : r.Covers code) :
    ¬ r'.Covers (code + r.shift).toNat := by
  obtain ⟨hfirst, hlast, hstride⟩ := hcode
  rintro ⟨hfirst', hlast', hstride'⟩
  simp only [misses, imageEnds, Bool.and_eq_true, Bool.or_eq_true, Nat.blt_eq, beq_iff_eq] at h
  obtain (h | h) | ⟨⟨htwo, hsteps | hone⟩, hodd⟩ := h
  · omega
  · omega
  · rw [hsteps] at hstride
    rw [htwo] at hstride'
    omega
  · rw [htwo] at hstride'
    omega

end CaseRun

/-- What a case mapping makes of a character: an expansion, a character some codes away, or the
character itself. -/
theorem CaseMap.apply_cases (m : CaseMap) (c : Char) :
    (∃ codes, (c.toNat, codes) ∈ m.expansions ∧ m.apply c = codes.map Char.ofNat) ∨
    (∃ r ∈ m.runs, r.Covers c.toNat ∧ m.apply c = [Char.ofNat (c.toNat + r.shift).toNat]) ∨
    m.apply c = [c] := by
  unfold apply
  dsimp only
  rcases hcodes : m.expansions.lookup c.toNat with _ | codes
  · dsimp only
    split
    · exact .inr (.inr rfl)
    · rename_i r hr
      split
      · rename_i hcovers
        simp only [Bool.and_eq_true, decide_eq_true_eq, beq_iff_eq] at hcovers
        obtain ⟨⟨hfirst, hlast⟩, hstride⟩ := hcovers
        exact .inr (.inl ⟨r, Array.mem_of_getElem? hr, ⟨hfirst, hlast, hstride⟩, rfl⟩)
      · exact .inr (.inr rfl)
  · obtain ⟨before, after, hsplit, -⟩ := List.lookup_eq_some_iff.1 hcodes
    exact .inl ⟨codes, hsplit ▸ List.mem_append_right _ (List.mem_cons_self ..), rfl⟩

/-! ### Codes that upper case leaves alone -/

/-- The codes that may have another upper-case form. -/
def upperRuns : List CaseRun :=
  ⟨0x61, 0x7a, 1, -32⟩ :: upperMap.runs.toList ++ upperMap.expansions.map fun e => ⟨e.1, e.1, 1, 0⟩

/-- A code that no run covers. -/
def Settled (code : Nat) : Prop := ∀ r ∈ upperRuns, ¬ r.Covers code

instance (code : Nat) : Decidable (Settled code) :=
  decidable_of_iff ((upperRuns.all fun r =>
      Nat.blt code r.first || Nat.blt r.last code || (code - r.first) % r.stride != 0) = true) <| by
    simp only [List.all_eq_true, Bool.or_eq_true, Nat.blt_eq, bne_iff_ne, Settled, CaseRun.Covers]
    exact forall₂_congr fun r _ => by omega

/-- A settled character is its own capital. -/
theorem upperChar_of_settled {c : Char} (h : Settled c.toNat) : upperChar c = [c] := by
  unfold upperChar
  split
  · have hletter := h ⟨0x61, 0x7a, 1, -32⟩ (by simp [upperRuns])
    rw [Char.toUpper, dif_neg]
    rintro ⟨hfirst, hlast⟩
    exact hletter ⟨hfirst, hlast, Nat.mod_one _⟩
  · rcases upperMap.apply_cases c with ⟨codes, hmem, -⟩ | ⟨r, hr, hcovers, -⟩ | heq
    · have hrun : (⟨c.toNat, c.toNat, 1, 0⟩ : CaseRun) ∈ upperRuns :=
        List.mem_cons_of_mem _ (List.mem_append_right _
          (List.mem_map.2 ⟨(c.toNat, codes), hmem, rfl⟩))
      exact absurd ⟨le_rfl, le_rfl, Nat.mod_one _⟩ (h _ hrun)
    · have hrun : r ∈ upperRuns :=
        List.mem_cons_of_mem _ (List.mem_append_left _ (Array.mem_toList_iff.2 hr))
      exact absurd hcovers (h r hrun)
    · exact heq

/-- A number that is no code stands for the code zero. -/
theorem upperChar_ofNat_of_settled {code : Nat} (h : Settled code) :
    upperChar (Char.ofNat code) = [Char.ofNat code] := by
  refine upperChar_of_settled ?_
  rw [Char.toNat_ofNat]
  split
  · exact h
  · decide +kernel

/-! ### The tables against themselves -/

/-- No run of the table leads into another one. -/
theorem misses_upperRuns :
    (upperMap.runs.toList.all fun r =>
      decide (0 ≤ r.first + r.shift) && upperRuns.all r.misses) = true := by
  decide +kernel

/-- The characters of every expansion are settled. -/
theorem settled_expansions : ∀ e ∈ upperMap.expansions, ∀ code ∈ e.2, Settled code := by
  decide +kernel

/-- The capital of a character of ASCII is one, and its own capital. -/
theorem toUpper_toUpper_of_lt (n : Fin 128) :
    (Char.ofNat n).toUpper.toNat < 128 ∧
      (Char.ofNat n).toUpper.toUpper = (Char.ofNat n).toUpper := by
  decide +revert +kernel

/-- **What upper case produces is left alone by it.** -/
theorem upperChar_of_mem_upperChar {c d : Char} (h : d ∈ upperChar c) : upperChar d = [d] := by
  unfold upperChar at h
  split at h
  · rename_i hascii
    obtain ⟨hlt, heq⟩ := toUpper_toUpper_of_lt ⟨c.toNat, hascii⟩
    rw [Char.ofNat_toNat] at hlt heq
    obtain rfl := List.mem_singleton.1 h
    rw [upperChar, if_pos hlt, heq]
  · rename_i hascii
    rcases upperMap.apply_cases c with ⟨codes, hmem, heq⟩ | ⟨r, hr, hcovers, heq⟩ | heq
    · rw [heq] at h
      obtain ⟨code, hcode, rfl⟩ := List.mem_map.1 h
      exact upperChar_ofNat_of_settled (settled_expansions _ hmem code hcode)
    · rw [heq] at h
      obtain rfl := List.mem_singleton.1 h
      have hall := List.all_eq_true.1 misses_upperRuns r (Array.mem_toList_iff.2 hr)
      rw [Bool.and_eq_true, decide_eq_true_eq, List.all_eq_true] at hall
      exact upperChar_ofNat_of_settled fun r' hr' =>
        CaseRun.not_covers_of_misses hall.1 (hall.2 r' hr') hcovers
    · rw [heq] at h
      obtain rfl := List.mem_singleton.1 h
      rw [upperChar, if_neg hascii, heq]

/-- **The upper-case form of a text is in upper case.** -/
theorem upper_upper (s : String) : upper (upper s) = upper s := by
  have hchar (c : Char) : (upperChar c).flatMap upperChar = upperChar c := by
    calc (upperChar c).flatMap upperChar
        = (upperChar c).flatMap fun d => [d] :=
          List.flatMap_congr fun d hd => upperChar_of_mem_upperChar hd
      _ = upperChar c := List.flatMap_singleton' _
  simp only [upper, String.toList_ofList, List.flatMap_assoc, hchar]

end Text
end Rulebook
