/-
# The order of texts is the order of their bytes

Texts are compared character by character, and rule maps are sorted by that order. UTF-8
keeps it: the bytes of a smaller character come before those of a greater one, also when
more bytes follow (`utf8EncodeChar_append_lt`), because a character of more bytes has a
greater first byte, and among characters of as many bytes the digits in base 64 decide.
So sorting by characters and sorting by bytes are one thing (`lt_iff_encodeUtf8_lt`).
-/

import Rulebook.SortedMap
import Rulebook.Text.Utf8
import Mathlib.Tactic.SplitIfs

namespace Rulebook
namespace Text

/-- Lists of bytes are compared by their first bytes, and then by the others. -/
theorem cons_ofNat_lt_cons_ofNat {m n : Nat} (hm : m < 256) (hn : n < 256) (x y : List UInt8) :
    UInt8.ofNat m :: x < UInt8.ofNat n :: y ↔ m < n ∨ m = n ∧ x < y := by
  have hinj : UInt8.ofNat m = UInt8.ofNat n ↔ m = n := by
    rw [← UInt8.toNat_inj, UInt8.toNat_ofNat_of_lt' hm, UInt8.toNat_ofNat_of_lt' hn]
  rw [List.cons_lt_cons_iff, UInt8.lt_iff_toNat_lt, UInt8.toNat_ofNat_of_lt' hm,
    UInt8.toNat_ofNat_of_lt' hn, hinj]

/-- The bytes of the smaller of two characters come before those of the greater one,
whatever bytes follow. -/
theorem utf8EncodeChar_append_lt {c d : Char} (h : c < d) (x y : List UInt8) :
    String.utf8EncodeChar c ++ x < String.utf8EncodeChar d ++ y := by
  have hlt : c.val.toNat < d.val.toNat := h
  have hd : d.val.toNat < 1114112 := d.valid.elim (by omega) (by omega)
  unfold String.utf8EncodeChar
  dsimp only
  generalize c.val.toNat = m at *
  generalize d.val.toNat = n at *
  -- The digits of both numbers in base 64, as far as the encoding cuts them off.
  have hm : m < 1114112 := by omega
  have hm₁ : m / 64 / 64 = m / 4096 := Nat.div_div_eq_div_mul m 64 64
  have hm₂ : m / 4096 / 64 = m / 262144 := Nat.div_div_eq_div_mul m 4096 64
  have hm₃ : m / 262144 % 8 = m / 262144 := by omega
  have hn₁ : n / 64 / 64 = n / 4096 := Nat.div_div_eq_div_mul n 64 64
  have hn₂ : n / 4096 / 64 = n / 262144 := Nat.div_div_eq_div_mul n 4096 64
  have hn₃ : n / 262144 % 8 = n / 262144 := by omega
  split_ifs <;>
    simp (disch := omega) only [List.cons_append, List.nil_append, cons_ofNat_lt_cons_ofNat,
      hm₃, hn₃] <;>
    omega

/-- Encoding keeps the order of characters. -/
theorem flatMap_utf8EncodeChar_lt {a b : List Char} (h : a < b) :
    a.flatMap String.utf8EncodeChar < b.flatMap String.utf8EncodeChar := by
  induction h with
  | @nil d rest =>
    obtain ⟨x, xs, hx⟩ := List.exists_cons_of_ne_nil (@String.utf8EncodeChar_ne_nil d)
    rw [List.flatMap_nil, List.flatMap_cons, hx, List.cons_append]
    exact List.nil_lt_cons ..
  | rel h =>
    rw [List.flatMap_cons, List.flatMap_cons]
    exact utf8EncodeChar_append_lt h _ _
  | cons _ ih =>
    rw [List.flatMap_cons, List.flatMap_cons]
    exact List.append_left_lt ih

/-- **The order of texts is the order of their UTF-8 bytes.** -/
theorem lt_iff_encodeUtf8_lt {a b : String} : a < b ↔ encodeUtf8 a < encodeUtf8 b := by
  have hmono : ∀ {a b : String}, a < b → encodeUtf8 a < encodeUtf8 b := by
    intro a b h
    exact flatMap_utf8EncodeChar_lt h
  refine ⟨hmono, fun h => ?_⟩
  rcases Decidable.em (a < b) with hlt | hlt
  · exact hlt
  · rcases Decidable.em (a = b) with rfl | hne
    · exact absurd h (List.lt_irrefl _)
    · exact absurd h (List.lt_asymm (hmono (lt_of_not_lt_of_ne hlt hne)))

/-- A character of two bytes comes after one of a single byte. -/
example : "z" < "é" := by decide

end Text
end Rulebook
