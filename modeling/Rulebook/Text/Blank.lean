/-
# Blank characters

White space is the Unicode property `White_Space`. `trim` drops blank characters from
both ends of a text and keeps every character between the first and the last one that
is not blank.
-/

namespace Rulebook
namespace Text

/-- The property `White_Space`. -/
def isBlank (c : Char) : Bool :=
  let n := c.toNat
  (0x9 ≤ n && n ≤ 0xd) || n == 0x20 || n == 0x85 || n == 0xa0 || n == 0x1680 ||
  (0x2000 ≤ n && n ≤ 0x200a) || n == 0x2028 || n == 0x2029 || n == 0x202f ||
  n == 0x205f || n == 0x3000

/-- A list without the leading elements that satisfy `p`, and without the trailing ones. -/
def stripBoth (p : Char → Bool) (cs : List Char) : List Char :=
  ((cs.dropWhile p).reverse.dropWhile p).reverse

/-- The characters of a text without the blank ones at its ends. -/
def trimChars (cs : List Char) : List Char :=
  stripBoth isBlank cs

/-- A text without the blank characters at its ends. -/
def trim (s : String) : String :=
  String.ofList (trimChars s.toList)

/-- A text of blank characters only, the empty text included. -/
def isBlankText (s : String) : Bool :=
  s.toList.all isBlank

end Text
end Rulebook
