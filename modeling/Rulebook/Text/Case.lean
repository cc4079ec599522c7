/-
# Upper and lower case

Case mapping follows Unicode, independent of any locale, and may change the length of
a text: `ß` becomes `SS`. ASCII letters are mapped directly; for other characters the
tables of `Rulebook.Text.CaseTable` decide. Going down, a capital sigma at the end of a
word becomes a final sigma.
-/

import Rulebook.Text.CaseTable

namespace Rulebook
namespace Text

/-- The index of the last run whose first code is at or below `code`, plus one, among the
runs with index in `[lo, hi)`; `lo` when there is none. -/
def CaseMap.rank (runs : Array CaseRun) (code lo hi : Nat) : Nat :=
  if lo < hi then
    let mid := (lo + hi) / 2
    if (runs[mid]?.map (·.first)).getD 0 ≤ code then rank runs code (mid + 1) hi
    else rank runs code lo mid
  else lo
termination_by hi - lo

/-- The image of a character beyond ASCII under a case mapping. -/
def CaseMap.apply (m : CaseMap) (c : Char) : List Char :=
  let code := c.toNat
  match m.expansions.lookup code with
  | some codes => codes.map Char.ofNat
  | none =>
    match m.runs[CaseMap.rank m.runs code 0 m.runs.size - 1]? with
    | none => [c]
    | some r =>
      if r.first ≤ code && code ≤ r.last && (code - r.first) % r.stride == 0 then
        [Char.ofNat (code + r.shift).toNat]
      else [c]

/-- The upper-case form of a character, up to three characters long. -/
def upperChar (c : Char) : List Char :=
  if c.toNat < 128 then [c.toUpper] else upperMap.apply c

/-- The lower-case form of a character, up to two characters long. -/
def lowerChar (c : Char) : List Char :=
  if c.toNat < 128 then [c.toLower] else lowerMap.apply c

/-- The upper-case form of a text. -/
def upper (s : String) : String :=
  String.ofList (s.toList.flatMap upperChar)

/-- The first character, in reading order, that is not case-ignorable, is a cased one. -/
def nextIsCased (cs : List Char) : Bool :=
  match cs.dropWhile (fun c => caseIgnorable.contains c) with
  | [] => false
  | c :: _ => cased.contains c

/-- Lower-cases a list of characters, given the characters before it, nearest first. -/
def lowerChars (before : List Char) : List Char → List Char
  | [] => []
  | c :: rest =>
    let image :=
      if c == 'Σ' then
        if nextIsCased before && !nextIsCased rest then ['ς'] else ['σ']
      else lowerChar c
    image ++ lowerChars (c :: before) rest

/-- The lower-case form of a text. -/
def lower (s : String) : String :=
  String.ofList (lowerChars [] s.toList)

/-- Equality of texts up to the case of ASCII letters. -/
def eqIgnoreAsciiCase (s t : String) : Bool :=
  s.toList.map Char.toLower == t.toList.map Char.toLower

end Text
end Rulebook
