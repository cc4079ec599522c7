/-
# String text

The outline of a string runs from the opening to the next closing quote that no
backslash precedes; it has no control characters, and each backslash starts a known
escape. A keeping reader also asks that escaped surrogates come in pairs and that the
bytes are UTF-8; it reports the first thing wrong in reading order, the encoding last.

The input is given byte by byte, each byte as the character with its code.
-/

import Rulebook.Json.NumberText
import Rulebook.Text.Utf8

namespace Rulebook
namespace Json

open Text (isDigit digitValue)

/-- The value of four hexadecimal digits. -/
def hexValue? (ds : List Char) : Option Nat :=
  ds.foldl
    (fun acc c => acc.bind fun n =>
      if isDigit c then some (n * 16 + digitValue c)
      else if 'a' ≤ c && c ≤ 'f' then some (n * 16 + (c.toNat - 'a'.toNat + 10))
      else if 'A' ≤ c && c ≤ 'F' then some (n * 16 + (c.toNat - 'A'.toNat + 10))
      else none)
    (some 0)

/-- The character of an escape of one letter. -/
def simpleEscape? : Char → Option Char
  | '"' => some '"'
  | '\\' => some '\\'
  | '/' => some '/'
  | 'b' => some '\x08'
  | 'f' => some '\x0c'
  | 'n' => some '\n'
  | 'r' => some '\r'
  | 't' => some '\t'
  | _ => none

/-- A code in the first half of a surrogate pair. -/
def isHighSurrogate (n : Nat) : Bool := 0xD800 ≤ n && n ≤ 0xDBFF

/-- A code in the second half of a surrogate pair. -/
def isLowSurrogate (n : Nat) : Bool := 0xDC00 ≤ n && n ≤ 0xDFFF

/-- What a keeping reader has of a string so far. -/
structure Kept where
  /-- The bytes, last one first. -/
  bytes : List UInt8 := []
  /-- An escaped first half of a surrogate pair that waits for the second. -/
  pending : Option Nat := none
  /-- The first thing that is wrong. -/
  error : Option SyntaxError := none

/-- Notes a failure, unless there is an earlier one. -/
def Kept.fail (k : Kept) (e : SyntaxError) : Kept :=
  { k with error := k.error <|> some e }

/-- Notes that something other than the second half of a pair comes next. -/
def Kept.interrupt (k : Kept) : Kept :=
  match k.pending with
  | none => k
  | some _ => { k.fail .unfinishedSurrogate with pending := none }

/-- Adds the bytes of a character. -/
def Kept.push (k : Kept) (c : Char) : Kept :=
  { k with bytes := (Text.encodeUtf8 (String.singleton c)).reverse ++ k.bytes }

/-- Adds a byte as it stands. -/
def Kept.pushByte (k : Kept) (c : Char) : Kept :=
  { k with bytes := UInt8.ofNat c.toNat :: k.bytes }

/-- Adds an escaped code. -/
def Kept.pushCode (k : Kept) (n : Nat) : Kept :=
  match k.pending with
  | some high =>
    if isLowSurrogate n then
      { k with pending := none }.push
        (Char.ofNat (0x10000 + (high - 0xD800) * 0x400 + (n - 0xDC00)))
    else { k.fail .loneSurrogate with pending := none }
  | none =>
    if isLowSurrogate n then k.fail .loneSurrogate
    else if isHighSurrogate n then { k with pending := some n }
    else k.push (Char.ofNat n)

/-- The string at its closing quote. -/
def Kept.close (k : Kept) : Except SyntaxError String :=
  match k.interrupt.error with
  | some e => .error e
  | none =>
    match Text.decodeUtf8 k.bytes.reverse with
    | .ok s => .ok s
    | .error _ => .error .invalidCodePoint

/-- The failure of a string whose outline is wrong. -/
def Kept.fault (k : Kept) (e : SyntaxError) : Fault := ⟨e, k.error.getD e⟩

/-- The outline of a string, after its opening quote. -/
def scanString (k : Kept) (s : List Char) :
    Except Fault (Front (Except SyntaxError String) s) :=
  match s with
  | [] => .error (k.fault .endInString)
  | '"' :: r => .ok ⟨k.close, r, by simp⟩
  | '\\' :: 'u' :: a :: b :: c :: d :: r =>
    match hexValue? [a, b, c, d] with
    | none => .error (k.fault .invalidEscape)
    | some n =>
      match scanString (k.pushCode n) r with
      | .error f => .error f
      | .ok t => .ok ⟨t.value, t.rest, by have := t.le; simp only [List.length_cons]; omega⟩
  | '\\' :: 'u' :: _ => .error (k.fault .endInString)
  | '\\' :: c :: r =>
    match simpleEscape? c with
    | none => .error (k.interrupt.fault .invalidEscape)
    | some e =>
      match scanString (k.interrupt.push e) r with
      | .error f => .error f
      | .ok t => .ok ⟨t.value, t.rest, by have := t.le; simp only [List.length_cons]; omega⟩
  | '\\' :: [] => .error (k.fault .endInString)
  | c :: r =>
    if c.toNat < 0x20 then .error (k.interrupt.fault .controlCharacter)
    else
      match scanString (k.interrupt.pushByte c) r with
      | .error f => .error f
      | .ok t => .ok ⟨t.value, t.rest, by have := t.le; simp only [List.length_cons]; omega⟩

end Json
end Rulebook
