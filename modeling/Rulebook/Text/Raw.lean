/-
# Raw texts

The operating system knows names and paths as bytes. Most of them are texts in UTF-8, but
none has to be: `text?` gives the text of those that are. What is not UTF-8 can still be
compared, joined and opened; it can be shown (`display`) with U+FFFD for what is no
character, and it cannot be written to JSON.

| bytes | `text?` | `display` |
| --- | --- | --- |
| `61 2E 6A 73 6F 6E` | `a.json` | `a.json` |
| `FF 2E 6A 73 6F 6E` | none | `\uFFFD.json` |
-/

import Rulebook.Text.Utf8

namespace Rulebook

/-- A text as the operating system knows it: bytes that need not be UTF-8. -/
@[ext]
structure RawText where
  bytes : List UInt8
deriving DecidableEq, Repr

namespace RawText

/-- The bytes of a text. -/
def ofString (s : String) : RawText := ⟨Text.encodeUtf8 s⟩

instance : Coe String RawText := ⟨ofString⟩

/-- The text, if the bytes are UTF-8. -/
def text? (t : RawText) : Option String := (Text.decodeUtf8 t.bytes).toOption

/-- The text for display. -/
def display (t : RawText) : String := String.ofList (Text.decodeLossy t.bytes)

/-- The bytes as a text of their own: one character for each byte, with the same number. -/
def key (t : RawText) : String := String.ofList (t.bytes.map fun b => Char.ofNat b.toNat)

instance : Append RawText := ⟨fun a b => ⟨a.bytes ++ b.bytes⟩⟩

/-- Raw texts are compared byte by byte. -/
instance : LT RawText := ⟨fun a b => a.bytes < b.bytes⟩

instance : LE RawText := ⟨fun a b => ¬ b < a⟩

instance (a b : RawText) : Decidable (a < b) := inferInstanceAs (Decidable (a.bytes < b.bytes))

instance (a b : RawText) : Decidable (a ≤ b) := inferInstanceAs (Decidable (¬ b < a))

end RawText

end Rulebook
