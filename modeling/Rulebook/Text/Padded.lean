/-
# Padded text

Columns are counted in characters. A text is cut to a maximal width first and then
filled up to a minimal one; what is missing goes to the right, to the left, or to both
sides with the odd character on the right.
-/

namespace Rulebook
namespace Text

/-- Where a text stands in a column that is wider than it. -/
inductive Align where
  | left
  | right
  | center
deriving DecidableEq, Repr

/-- How a text is laid out in a column. -/
structure Column where
  width : Nat := 0
  align : Align := .left
  fill : Char := ' '
  /-- At most this many characters are shown. -/
  limit : Option Nat := none
deriving DecidableEq, Repr

/-- A text laid out in a column. -/
def Column.pad (col : Column) (s : String) : String :=
  let cs := match col.limit with
    | none => s.toList
    | some n => s.toList.take n
  let missing := col.width - cs.length
  let before := match col.align with
    | .left => 0
    | .right => missing
    | .center => missing / 2
  String.ofList
    (List.replicate before col.fill ++ cs ++ List.replicate (missing - before) col.fill)

end Text
end Rulebook
