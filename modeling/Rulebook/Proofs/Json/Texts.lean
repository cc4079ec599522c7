/-
# Values that are decoded from texts

A decoder that leaves the text of a JSON string to a reader (`Json.Decode.stringVia`) accepts
exactly the strings whose text the reader accepts, with the result of the reader
(`Json.decodesBy_stringVia`). Where something else stands the reader is not asked, and a document
that is one string is accepted like a string inside a document.
-/

import Rulebook.Json.Decode

namespace Rulebook
namespace Json

variable {α : Type}

/-- A decoder accepts the JSON strings whose text a reader accepts, as the reader does, and nothing
else. A text that the reader does not accept is worded into the refusal as it is written. -/
structure DecodesBy (d : Decoder α) (read? : String → Option α) (refusal : String → String) :
    Prop where
  accepts (s : Source) (a : α) :
    d s = .ok a ↔ ∃ text, s = .string (.ok text) ∧ read? text = some a
  refuses (text : String) (e : DecodeError) :
    d (.string (.ok text)) = .error e ↔ read? text = none ∧ e = .rejected (refusal text)
  document (bytes : List UInt8) (a : α) :
    decodeBytes d bytes = .ok a ↔
      ∃ text, decodeBytes Decode.string bytes = .ok text ∧ read? text = some a

/-! ### What is decoded -/

/-- A mismatch gives no value. -/
theorem Source.mismatch_ne_ok {s : Source} {expected : String} {a : α} :
    s.mismatch expected ≠ .ok a := by
  unfold mismatch
  split <;> exact fun h => by cases h

/-- A text is decoded from a string that is written without a fault, and from nothing else. -/
theorem Decode.stringAs_eq_ok_iff {expected text : String} {s : Source} :
    stringAs expected s = .ok text ↔ s = .string (.ok text) := by
  cases s with
  | string written =>
    rcases written with e | written
    · simp [stringAs, ofSyntax]
    · simp [stringAs, ofSyntax]
  | _ =>
    constructor
    · intro h
      unfold stringAs at h
      exact (Source.mismatch_ne_ok h).elim
    · intro h
      cases h

/-- What is read from a string is read from its text. -/
theorem Decode.stringVia_eq_ok_iff {expected : String} {read : String → Except String α}
    {s : Source} {a : α} :
    stringVia expected read s = .ok a ↔ ∃ text, s = .string (.ok text) ∧ read text = .ok a := by
  have hstring (text : String) : s = .string (.ok text) ↔ stringAs expected s = .ok text :=
    stringAs_eq_ok_iff.symm
  simp only [hstring]
  rw [stringVia]
  rcases stringAs expected s with e | text
  · simp
  · rcases hread : read text with reason | a'
    · simp [hread]
    · simp [hread]

/-- A string is rejected for the reason for which its text is. -/
theorem Decode.stringVia_string_eq_error_iff {expected text : String}
    {read : String → Except String α} {e : DecodeError} :
    stringVia expected read (.string (.ok text)) = .error e ↔
      ∃ reason, read text = .error reason ∧ e = .rejected reason := by
  simp only [stringVia, stringAs, ofSyntax]
  rcases read text with reason | a
  · simp [eq_comm]
  · simp

/-- A document is decoded if its value is, and nothing follows. -/
theorem decodeBytes_eq_ok_iff {d : Decoder α} {bytes : List UInt8} {a : α} :
    decodeBytes d bytes = .ok a ↔
      d (Document.read bytes).root = .ok a ∧ (Document.read bytes).trailing = false := by
  rw [decodeBytes]
  rcases d (Document.read bytes).root with e | a'
  · simp
  · cases (Document.read bytes).trailing <;> simp

/-! ### Readers of texts -/

section

variable {read? : String → Option α} {refusal : String → String}

/-- What a reader makes of a text, or the wording for a text that it does not accept. -/
def worded (read? : String → Option α) (refusal : String → String) (text : String) :
    Except String α :=
  match read? text with
  | some a => .ok a
  | none => .error (refusal text)

/-- A word is accepted exactly if it is read. -/
theorem worded_eq_ok_iff {text : String} {a : α} :
    worded read? refusal text = .ok a ↔ read? text = some a := by
  rw [worded]
  cases read? text <;> simp

/-- A word that is not read is refused in its own wording. -/
theorem worded_eq_error_iff {text reason : String} :
    worded read? refusal text = .error reason ↔ read? text = none ∧ reason = refusal text := by
  rw [worded]
  cases read? text <;> simp [eq_comm]

/-- **A decoder that leaves texts to a reader decodes by it.** -/
theorem decodesBy_stringVia (expected : String) :
    DecodesBy (Decode.stringVia expected (worded read? refusal)) read? refusal := by
  refine ⟨fun s a => ?_, fun text e => ?_, fun bytes a => ?_⟩
  · simp only [Decode.stringVia_eq_ok_iff, worded_eq_ok_iff]
  · simp only [Decode.stringVia_string_eq_error_iff, worded_eq_error_iff, and_assoc,
      exists_and_left, exists_eq_left]
  · simp only [decodeBytes_eq_ok_iff, Decode.string, Decode.stringVia_eq_ok_iff,
      Decode.stringAs_eq_ok_iff, worded_eq_ok_iff]
    constructor
    · rintro ⟨⟨text, hroot, hread⟩, htrailing⟩
      exact ⟨text, ⟨hroot, htrailing⟩, hread⟩
    · rintro ⟨text, ⟨hroot, htrailing⟩, hread⟩
      exact ⟨⟨text, hroot, hread⟩, htrailing⟩

end

end Json
end Rulebook
