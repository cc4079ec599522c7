/-
# Printing JSON

A tree is printed on one line without spaces, or over several lines with an indentation
of two columns per level; empty lists and objects stay closed up. Quotes, backslashes
and control characters are escaped; other characters are printed as they are, or, on
request, everything beyond ASCII as UTF-16 escapes.
-/

import Rulebook.Json.Basic
import Rulebook.Decimal.Layout
import Rulebook.Text.Quoted

namespace Rulebook
namespace Json

/-- Four hexadecimal digits after `\u`. -/
def unitEscape (n : Nat) : List Char :=
  '\\' :: 'u' :: Decimal.padDigits 4 (Text.hexDigits n)

/-- A character in a printed string. -/
def printChar (ascii : Bool) (c : Char) : List Char :=
  match c with
  | '"' => ['\\', '"']
  | '\\' => ['\\', '\\']
  | '\n' => ['\\', 'n']
  | '\r' => ['\\', 'r']
  | '\t' => ['\\', 't']
  | '\x08' => ['\\', 'b']
  | '\x0c' => ['\\', 'f']
  | c =>
    let n := c.toNat
    if n < 0x20 then unitEscape n
    else if !ascii || n < 0x7f then [c]
    else if n < 0x10000 then unitEscape n
    else unitEscape (0xD800 + (n - 0x10000) / 0x400) ++ unitEscape (0xDC00 + (n - 0x10000) % 0x400)

/-- A printed string. -/
def printString (ascii : Bool) (s : String) : String :=
  String.ofList ('"' :: s.toList.flatMap (printChar ascii) ++ ['"'])

/-- A printed number. -/
def Number.text : Number → String
  | .int n => toString n
  | .real x => Decimal.Layout.interchange.text x

mutual

/-- A tree on one line. -/
def compress (ascii : Bool) : Json → String
  | .null => "null"
  | .bool b => if b then "true" else "false"
  | .number n => n.text
  | .string s => printString ascii s
  | .array items => "[" ++ compressItems ascii items ++ "]"
  | .object fields => "\x7b" ++ compressFields ascii fields ++ "\x7d"

/-- Items on one line. -/
def compressItems (ascii : Bool) : List Json → String
  | [] => ""
  | [j] => compress ascii j
  | j :: rest => compress ascii j ++ "," ++ compressItems ascii rest

/-- Fields on one line. -/
def compressFields (ascii : Bool) : List (String × Json) → String
  | [] => ""
  | [(k, j)] => printString ascii k ++ ":" ++ compress ascii j
  | (k, j) :: rest =>
    printString ascii k ++ ":" ++ compress ascii j ++ "," ++ compressFields ascii rest

end

/-- A line break and the indentation of a level. -/
def newLine (level : Nat) : String := "\n" ++ String.ofList (List.replicate (2 * level) ' ')

mutual

/-- A tree over several lines, its own brackets at an indentation level. -/
def pretty (level : Nat) : Json → String
  | .null => "null"
  | .bool b => if b then "true" else "false"
  | .number n => n.text
  | .string s => printString false s
  | .array [] => "[]"
  | .array items => "[" ++ prettyItems (level + 1) items ++ newLine level ++ "]"
  | .object [] => "\x7b\x7d"
  | .object fields => "\x7b" ++ prettyFields (level + 1) fields ++ newLine level ++ "\x7d"

/-- Items, each on lines of its own. -/
def prettyItems (level : Nat) : List Json → String
  | [] => ""
  | [j] => newLine level ++ pretty level j
  | j :: rest => newLine level ++ pretty level j ++ "," ++ prettyItems level rest

/-- Fields, each on lines of its own. -/
def prettyFields (level : Nat) : List (String × Json) → String
  | [] => ""
  | [(k, j)] => newLine level ++ printString false k ++ ": " ++ pretty level j
  | (k, j) :: rest =>
    newLine level ++ printString false k ++ ": " ++ pretty level j ++ ","
      ++ prettyFields level rest

end

end Json
end Rulebook
