/-
# Lines of an environment file

A line of an environment file ends at the end of a line of text outside of quotes, so a
quoted value may go on over several lines of text. A number sign after a blank starts a
comment, which is left out together with the end of the line.

| part of a line | a line of text may end here |
| --- | --- |
| outside of quotes | yes |
| between quotes | no |
| after a blank or a backslash | only by its line feed |

Reading stops without an error at the first line that is not complete or not UTF-8; what
stands before it counts.
-/

import Rulebook.Text.Blank
import Rulebook.Text.Utf8

namespace Rulebook
namespace EnvironmentFile

/-- The part of a line in which a character stands. -/
inductive LinePart where
  | plain
  /-- Right behind a blank that stands outside of quotes. -/
  | blank
  /-- Right behind a backslash that stands outside of quotes. -/
  | escaped
  | weak
  | weakEscaped
  | strong
  | strongEscaped
deriving DecidableEq, Repr

namespace LinePart

/-- The part into which a character outside of quotes leads, wherever it stands there. -/
def opened (c : Char) (otherwise : LinePart) : LinePart :=
  if c = '\\' then .escaped
  else if c = '"' then .weak
  else if c = '\'' then .strong
  else otherwise

/-- The part behind a character; none where a comment starts. -/
def next : LinePart → Char → Option LinePart
  | plain, c =>
    let other := if Text.isBlank c && c != '\n' && c != '\r' then .blank else .plain
    some (opened c other)
  | blank, c => if c = '#' then none else some (opened c .plain)
  | escaped, _ => some .plain
  | weak, c => some (if c = '\\' then .weakEscaped else if c = '"' then .plain else .weak)
  | weakEscaped, _ => some .weak
  | strong, c => some (if c = '\\' then .strongEscaped else if c = '\'' then .plain else .strong)
  | strongEscaped, _ => some .strong

/-- The characters in front of a comment, and the part at the end if there is no comment. -/
def scan (part : LinePart) : List Char → List Char × Option LinePart
  | [] => ([], some part)
  | c :: rest =>
    match part.next c with
    | none => ([], none)
    | some part =>
      let (kept, last) := part.scan rest
      (c :: kept, last)

end LinePart

/-- A line without its line feed, and without the carriage return in front of that. -/
def dropEnd (line : List Char) : List Char :=
  match line.reverse with
  | '\n' :: '\r' :: rest => rest.reverse
  | '\n' :: rest => rest.reverse
  | _ => line

/-- The lines that lines of text make up, when some characters of a line and the part that
they lead to are given. -/
def joinLines (begun : List Char) (part : LinePart) : List (List Char) → List (List Char)
  | [] => []
  | line :: rest =>
    let whole := begun ++ line
    if (whole.dropWhile Text.isBlank).head? = some '#' then joinLines [] .plain rest
    else
      match part.scan line with
      | (kept, none) => (begun ++ kept) :: joinLines [] .plain rest
      | (_, some .plain) => dropEnd whole :: joinLines [] .plain rest
      | (_, some part) => joinLines whole part rest

/-- Bytes cut behind every line feed. -/
def cutLines : List UInt8 → List (List UInt8)
  | [] => []
  | b :: rest =>
    if b = 0x0A then [b] :: cutLines rest
    else
      match cutLines rest with
      | [] => [[b]]
      | line :: lines => (b :: line) :: lines

/-- The lines of text up to the first that is not UTF-8. -/
def decodeLines : List (List UInt8) → List (List Char)
  | [] => []
  | line :: rest =>
    match Text.decodeUtf8 line with
    | .error _ => []
    | .ok text => text.toList :: decodeLines rest

/-- Bytes without a byte order mark at the start. -/
def dropMark : List UInt8 → List UInt8
  | 0xEF :: 0xBB :: 0xBF :: rest => rest
  | bytes => bytes

/-- The lines of an environment file. -/
def linesOf (bytes : List UInt8) : List (List Char) :=
  joinLines [] .plain (decodeLines (cutLines (dropMark bytes)))

end EnvironmentFile
end Rulebook
