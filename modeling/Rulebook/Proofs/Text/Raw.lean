/-
# Raw texts, their texts and their order

A raw text is the bytes of at most one text, namely of the one that is read from it
(`text?_eq_some_iff`), and different texts have different bytes (`ofString_inj`). Raw texts are
ordered by their bytes, which is a linear order.
-/

import Mathlib.Data.List.Basic
import Mathlib.Order.Defs.LinearOrder
import Rulebook.Text.Raw
import Rulebook.Proofs.Text.Utf8

namespace Rulebook
namespace RawText

/-! ### Texts -/

/-- **A raw text reads as a text exactly if it is the bytes of this text.** -/
theorem text?_eq_some_iff {t : RawText} {s : String} : t.text? = some s ↔ t = s := by
  rw [RawText.ext_iff, ofString, ← Text.decodeUtf8_eq_ok_iff, text?]
  rcases Text.decodeUtf8 t.bytes with e | text <;> simp [Except.toOption]

/-- The bytes of a text read as this text. -/
@[simp]
theorem text?_ofString (s : String) : text? s = some s := text?_eq_some_iff.2 rfl

/-- Different texts have different bytes. -/
@[simp]
theorem ofString_inj {a b : String} : ofString a = ofString b ↔ a = b := by
  refine ⟨fun h => ?_, congrArg _⟩
  have hread : text? a = some b := text?_eq_some_iff.2 h
  exact Option.some.inj ((text?_ofString a).symm.trans hread)

/-- Only the empty text has no bytes. -/
theorem bytes_eq_nil_iff {t : RawText} : t.bytes = [] ↔ t = "" :=
  RawText.ext_iff.symm

/-- The bytes of two raw texts stand one after the other. -/
@[simp]
theorem bytes_append (a b : RawText) : (a ++ b).bytes = a.bytes ++ b.bytes := rfl

/-- Raw texts can be joined in any grouping. -/
theorem append_assoc (a b c : RawText) : a ++ b ++ c = a ++ (b ++ c) :=
  RawText.ext (List.append_assoc ..)

/-- Two raw texts make the empty one only if both are empty. -/
theorem append_eq_empty_iff {a b : RawText} : a ++ b = "" ↔ a = "" ∧ b = "" := by
  rw [← bytes_eq_nil_iff, ← bytes_eq_nil_iff, ← bytes_eq_nil_iff, bytes_append,
    List.append_eq_nil_iff]

/-- The key of a raw text is its own. -/
theorem key_injective : Function.Injective key := by
  intro a b h
  have hbyte : Function.Injective fun b : UInt8 => Char.ofNat b.toNat := by
    intro a b h
    have hnum (b : UInt8) : (Char.ofNat b.toNat).toNat = b.toNat := by
      rw [Char.ofNat, dif_pos (.inl (Nat.lt_trans b.toNat_lt (by decide)))]
      rfl
    exact UInt8.toNat_inj.1 ((hnum a).symm.trans ((congrArg Char.toNat h).trans (hnum b)))
  exact RawText.ext (List.map_injective_iff.2 hbyte (String.ofList_injective h))

/-! ### The order -/

instance : LinearOrder RawText where
  le_refl a := List.lt_irrefl a.bytes
  le_trans a b c hab hbc := show ¬ c.bytes < a.bytes from List.le_trans hab hbc
  le_antisymm a b hab hba := RawText.ext (List.le_antisymm hab hba)
  le_total a b := List.le_total a.bytes b.bytes
  lt_iff_le_not_ge a b :=
    ⟨fun h => ⟨List.lt_asymm h, not_not_intro h⟩, fun h => Decidable.not_not.1 h.2⟩
  toDecidableLE := inferInstance
  toDecidableLT := inferInstance

end RawText
end Rulebook
