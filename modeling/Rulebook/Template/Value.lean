/-
# Values of templates

The values that a template computes with. A map is the list of its entries in ascending
order of their keys. What operators, slices and `range` put together from items is a
`series`: it is used like a list, but is a kind of its own, and holds a pool of items and
their arrangement.

A value that is not there is a value too (`undefined`): it may be tested and replaced, but
using it is a failure. The one that a condition without an alternative gives is `silent`
and may also be written, as the empty text.

The named arguments of a call and the rounds of loops are values as well, which for most
purposes are maps (`Value.entries?`).

Something that holds what is no number is not equal to a copy of itself, but to itself. To
tell the two apart, such a container gets a mark when a name is bound to it
(`Value.marked`).
-/

import Rulebook.Template.Failure
import Rulebook.Template.Real
import Rulebook.Template.Arrangement
import Rulebook.Json.Basic
import Rulebook.Text.Quoted

namespace Rulebook
namespace Template

/-- A function that templates can call. -/
inductive Function where
  | range
deriving DecidableEq, Repr

namespace Function

/-- The name of a function. -/
def name : Function → String
  | range => "range"

/-- The text of a function: its name at the place where the template language keeps it. -/
def text (f : Function) : String := "minijinja::functions::builtins::" ++ f.name

/-- The function of a name. -/
def ofName? : String → Option Function
  | "range" => some range
  | _ => none

end Function

/-- What tells a container from its copies. -/
abbrev Mark := Option Nat

/-- A value of a template. -/
inductive Value where
  | undefined (silent : Bool)
  | none
  | bool (b : Bool)
  | int (n : Integer)
  | real (x : Real)
  | text (s : String)
  | list (mark : Mark) (items : List Value)
  | series (mark : Mark) (pool : List Value) (arrangement : Arrangement)
  /-- The entries stand in ascending order of their keys. -/
  | map (mark : Mark) (entries : List (Value × Value))
  /-- The named arguments of a call, in ascending order. -/
  | named (mark : Mark) (entries : List (Value × Value))
  /-- A round of the loop that was the so-many-th to begin, with the number of rounds
  before it, the number of all rounds, if it is known, and what else there is to know. -/
  | round (loop index : Nat) (count : Option Nat) (entries : List (Value × Value))
  | function (f : Function)

namespace Value

instance : Inhabited Value := ⟨.none⟩

/-- A value that is not there. -/
def missing : Value := .undefined false

/-- Nothing is there. -/
def isUndefined : Value → Bool
  | undefined _ => true
  | _ => false

/-- A list of items. -/
def ofItems (items : List Value) : Value := list Option.none items

/-- A series of items. -/
def inRow (items : List Value) : Value := series Option.none items (.all items.length)

/-- A map of entries, which stand in ascending order. -/
def ofEntries (entries : List (Value × Value)) : Value := map Option.none entries

/-- The pool of a list or a series, and how it is arranged. -/
def row? : Value → Option (List Value × Arrangement)
  | list _ items => some (items, .all items.length)
  | series _ pool arrangement => some (pool, arrangement)
  | _ => Option.none

/-- The items of a list or a series. -/
def items? : Value → Option (List Value)
  | list _ items => some items
  | series _ pool arrangement => some (arrangement.items pool)
  | _ => Option.none

/-- The entries of what is a map for most purposes. -/
def entries? : Value → Option (List (Value × Value))
  | map _ entries => some entries
  | named _ entries => some entries
  | round _ _ _ entries => some entries
  | _ => Option.none

/-- A number of things. -/
def ofNat (n : Nat) : Value := .int (.ofNat n)

mutual

/-- The value of a JSON tree. -/
def ofJson : Json → Value
  | .null => none
  | .bool b => bool b
  | .number (.int n) => int (.given n)
  | .number (.real x) => real (.number x.toFloat)
  | .string s => text s
  | .array items => ofItems (ofTrees items)
  | .object fields => ofEntries (ofFields fields)

/-- The values of JSON trees. -/
def ofTrees : List Json → List Value
  | [] => []
  | j :: rest => ofJson j :: ofTrees rest

/-- The entries of fields. -/
def ofFields : List (String × Json) → List (Value × Value)
  | [] => []
  | (k, j) :: rest => (text k, ofJson j) :: ofFields rest

end

/-! ### Writing -/

/-- The text of a round: its index and the number of all rounds. -/
def roundText (index : Nat) (count : Option Nat) : String :=
  let all := match count with
    | some n => toString n
    | Option.none => "?"
  "<loop " ++ toString index ++ "/" ++ all ++ ">"

/-- Texts with commas between them, inside brackets. -/
def bracketed (texts : List String) : String := "[" ++ ", ".intercalate texts ++ "]"

/-- Texts with commas between them, inside braces. -/
def braced (texts : List String) : String := "\x7b" ++ ", ".intercalate texts ++ "\x7d"

mutual

/-- The text of a value inside another one. -/
def inner : Value → String
  | undefined _ => "undefined"
  | none => "None"
  | bool b => if b then "True" else "False"
  | int n => toString n.value
  | real x => x.text .compact
  | text s => Text.quote s
  | list _ items => bracketed (innerItems items)
  | series _ pool arrangement => bracketed (arrangement.items (innerItems pool))
  | map _ entries => braced (innerEntries entries)
  | named _ entries => braced (innerEntries entries)
  | round _ index count _ => roundText index count
  | function f => f.text

/-- The texts of items. -/
def innerItems : List Value → List String
  | [] => []
  | v :: rest => inner v :: innerItems rest

/-- The texts of entries. -/
def innerEntries : List (Value × Value) → List String
  | [] => []
  | (k, v) :: rest => (inner k ++ ": " ++ inner v) :: innerEntries rest

end

/-- The text of a value. -/
def display : Value → String
  | undefined _ => ""
  | text s => s
  | real x => x.text .plain
  | v => inner v

/-! ### Truth and presence -/

/-- What counts as true in a condition. -/
def isTrue : Value → Bool
  | undefined _ => false
  | none => false
  | bool b => b
  | int n => n.value != 0
  | real x => x.isTrue
  | text s => !s.isEmpty
  | list _ items => !items.isEmpty
  | series _ _ arrangement => arrangement.length != 0
  | map _ entries => !entries.isEmpty
  | named _ entries => !entries.isEmpty
  | round _ _ _ _ => true
  | function _ => true

/-- The value, in a place where something has to be there. -/
def present : Value → Except Failure Value
  | undefined false => .error .undefinedValue
  | v => .ok v

/-- The value decides a condition. -/
def decides (v : Value) : Except Failure Bool := v.present.map isTrue

/-! ### Numbers -/

/-- The integer of 128 bits with a sign that a value is, if it is one. -/
def toInt? : Value → Option Int
  | bool b => some (if b then 1 else 0)
  | int n => n.signed?
  | real x => x.whole?
  | _ => Option.none

/-- A whole number of 64 bits. -/
def toIndex? (v : Value) : Option Int :=
  v.toInt?.bind fun n => if SignedWidth.fits 64 n then some n else Option.none

/-- The number that a value is, as a real; `exact` asks for one without loss. -/
def toReal? (exact : Bool) : Value → Option Real
  | bool b => some (.number (if b then 1.0 else 0.0))
  | int n => if exact then n.toFloat?.map .number else some (.number n.toFloat)
  | real x => some x
  | _ => Option.none

/-! ### Marks -/

mutual

/-- Something that is no number is in the value. -/
def holdsNan : Value → Bool
  | real (.nan _) => true
  | list _ items => anyHoldsNan items
  | series _ pool _ => anyHoldsNan pool
  | map _ entries => entriesHoldNan entries
  | named _ entries => entriesHoldNan entries
  | _ => false

/-- Something that is no number is in one of the values. -/
def anyHoldsNan : List Value → Bool
  | [] => false
  | v :: rest => holdsNan v || anyHoldsNan rest

/-- Something that is no number is in one of the entries. -/
def entriesHoldNan : List (Value × Value) → Bool
  | [] => false
  | (k, v) :: rest => holdsNan k || holdsNan v || entriesHoldNan rest

end

/-- A mark that may be there already, or the next one. -/
def markOr (mark : Mark) : StateM Nat Mark := do
  match mark with
  | some m => return some m
  | Option.none => modifyGet fun next => (some next, next + 1)

mutual

/-- The value with marks on all containers in it. -/
def withMarks : Value → StateM Nat Value
  | list mark items => do
    let mark ← markOr mark
    return list mark (← itemsWithMarks items)
  | series mark pool arrangement => do
    let mark ← markOr mark
    return series mark (← itemsWithMarks pool) arrangement
  | map mark entries => do
    let mark ← markOr mark
    return map mark (← entriesWithMarks entries)
  | named mark entries => do
    let mark ← markOr mark
    return named mark (← entriesWithMarks entries)
  | v => return v

/-- The values with marks on all containers in them. -/
def itemsWithMarks : List Value → StateM Nat (List Value)
  | [] => return []
  | v :: rest => do
    let v ← withMarks v
    return v :: (← itemsWithMarks rest)

/-- The entries with marks on all containers in them. -/
def entriesWithMarks : List (Value × Value) → StateM Nat (List (Value × Value))
  | [] => return []
  | (k, v) :: rest => do
    let k ← withMarks k
    let v ← withMarks v
    return (k, v) :: (← entriesWithMarks rest)

end

/-- The value as a name is bound to it: with marks, if they make a difference. -/
def marked (v : Value) : StateM Nat Value := if v.holdsNan then withMarks v else return v

end Value

/-- Two operands made alike. -/
inductive Operands where
  | ints (a b : Int)
  | reals (a b : Real)
  | texts (a b : String)

namespace Value

/-- Two operands made alike, if that can be done. If one is a real, the other one becomes a
real, `exact` tells whether without loss; a truth value counts as zero or one. -/
def operands? (exact : Bool) (a b : Value) : Option Operands :=
  match a, b with
  | text s, text t => some (.texts s t)
  | int m, int n => (m.pair? n).map fun p => .ints p.1 p.2
  | real x, b => (b.toReal? exact).map (.reals x)
  | a, real y => (a.toReal? exact).map fun x => .reals x y
  | a, b =>
    match a.toInt?, b.toInt? with
    | some m, some n => some (.ints m n)
    | _, _ => Option.none

end Value

end Template
end Rulebook
