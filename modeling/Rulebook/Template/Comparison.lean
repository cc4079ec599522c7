/-
# Equality and order of values

Values of different kinds are ordered by kind; the truth values are a kind of their own,
integers and reals are one. Numbers are ordered and equal by their exact values, and texts,
lists and maps are ordered by the first part that differs.

Equality does not look at kinds: a truth value equals the number that it counts as, a list
equals the series of the same items, and maps are equal if each key of one has the same
value in the other. A container is always equal to itself, and so is a loop.
-/

import Rulebook.Template.Value

namespace Rulebook
namespace Template
namespace Value

/-- The place of a value's kind in the order of kinds. -/
def rank : Value → Nat
  | undefined _ => 0
  | none => 1
  | bool _ => 2
  | int _ => 3
  | real _ => 3
  | text _ => 4
  | list _ _ => 5
  | map _ _ => 6
  | named _ _ => 6
  | round _ _ _ _ => 6
  | series _ _ _ => 7
  | function _ => 8

/-- The order of texts: character by character. -/
def compareTexts (a b : String) : Ordering := if a < b then .lt else if a = b then .eq else .gt

/-- The order of two values of one kind that have no parts: numbers that cannot be made
alike without loss are ordered by their exact values. -/
def compareLeaves (a b : Value) : Ordering :=
  match a, b with
  | int m, int n => Ord.compare m.value n.value
  | a, b =>
    match operands? true a b with
    | some (.ints m n) => Ord.compare m n
    | some (.reals x y) => x.compare y
    | some (.texts s t) => compareTexts s t
    | Option.none =>
      match a, b with
      | int m, real y => y.compareInt m.value
      | real x, int n => (x.compareInt n.value).swap
      | _, _ => .eq

/-- The order of two rows by the first items that differ; the items of the first row are
ready to be compared. -/
def compareRows : List (Value → Ordering) → List Value → Ordering
  | [], [] => .eq
  | [], _ :: _ => .lt
  | _ :: _, [] => .gt
  | c :: cs, v :: vs => (c v).then (compareRows cs vs)

mutual

/-- The order of values. Of two series no more is looked at than the shorter one has, and
one item beyond that. -/
def compare : Value → Value → Ordering
  | list _ a, list _ b => compareRows (compareEach a) b
  | series _ a p, series _ b q =>
    let shorter := min p.length q.length
    compareRows ((p.upTo (shorter + 1)).items (compareEach a)) ((q.upTo (shorter + 1)).items b)
  | map _ a, w =>
    match w.entries? with
    | some b => compareEntries a b
    | Option.none => Ord.compare 6 w.rank
  | named _ a, w =>
    match w.entries? with
    | some b => compareEntries a b
    | Option.none => Ord.compare 6 w.rank
  | round _ _ _ a, w =>
    match w.entries? with
    | some b => compareEntries a b
    | Option.none => Ord.compare 6 w.rank
  | v, w => if v.rank = w.rank then compareLeaves v w else Ord.compare v.rank w.rank

/-- Items, ready to be compared. -/
def compareEach : List Value → List (Value → Ordering)
  | [] => []
  | v :: rest => compare v :: compareEach rest

/-- The order of maps: by the first keys or values that differ. -/
def compareEntries : List (Value × Value) → List (Value × Value) → Ordering
  | [], [] => .eq
  | [], _ :: _ => .lt
  | _ :: _, [] => .gt
  | (k, v) :: as, (l, w) :: bs =>
    ((compare k l).then (compare v w)).then (compareEntries as bs)

end

/-- The value under a key. -/
def find? (k : Value) : List (Value × Value) → Option Value
  | [] => Option.none
  | e :: rest => if k.compare e.1 = .eq then some e.2 else find? k rest

/-- Equality of values without parts. -/
def sameLeaves (a b : Value) : Bool :=
  match operands? true a b with
  | some (.ints m n) => m == n
  | some (.reals x y) => x.same y
  | some (.texts s t) => s == t
  | Option.none =>
    match a, b with
    | undefined _, undefined _ => true
    | none, none => true
    | function f, function g => f == g
    | _, _ => false

/-- What tells a container from its copies. -/
def mark? : Value → Mark
  | list mark _ => mark
  | series mark _ _ => mark
  | map mark _ => mark
  | named mark _ => mark
  | _ => Option.none

/-- Both are one container. -/
def sameMark : Mark → Mark → Bool
  | some m, some n => m == n
  | _, _ => false

/-- Both are rounds of one loop. -/
def sameLoop : Value → Value → Bool
  | round l _ _ _, round m _ _ _ => l == m
  | _, _ => false

/-- Equality of two rows, the items of the first of which are ready to be compared. -/
def sameRows : List (Value → Bool) → List Value → Bool
  | [], [] => true
  | e :: es, v :: vs => e v && sameRows es vs
  | _, _ => false

mutual

/-- Equality of values. -/
def same : Value → Value → Bool
  | list mark a, w =>
    sameMark mark w.mark? ||
      match w.row? with
      | some (b, q) => a.length == q.length && sameRows (sameEach a) (q.items b)
      | Option.none => false
  | series mark a p, w =>
    sameMark mark w.mark? ||
      match w.row? with
      | some (b, q) => p.length == q.length && sameRows (p.items (sameEach a)) (q.items b)
      | Option.none => false
  | map mark a, w =>
    sameMark mark w.mark? ||
      match w.entries? with
      | some b => a.length == b.length && sameEntries a b
      | Option.none => false
  | named mark a, w =>
    sameMark mark w.mark? ||
      match w.entries? with
      | some b => a.length == b.length && sameEntries a b
      | Option.none => false
  | round l i n a, w =>
    sameLoop (round l i n a) w ||
      match w.entries? with
      | some b => a.length == b.length && sameEntries a b
      | Option.none => false
  | v, w => sameLeaves v w

/-- Items, ready to be compared. -/
def sameEach : List Value → List (Value → Bool)
  | [] => []
  | v :: rest => same v :: sameEach rest

/-- Every entry is among others, by its key. -/
def sameEntries : List (Value × Value) → List (Value × Value) → Bool
  | [], _ => true
  | (k, v) :: as, bs =>
    (match find? k bs with
     | some w => same v w
     | Option.none => false) && sameEntries as bs

end

/-- Equality of rows of values. -/
def sameItems (a b : List Value) : Bool := sameRows (sameEach a) b

/-! ### Maps -/

/-- Entries with a value under a key, replacing what stood there. -/
def insert (k v : Value) : List (Value × Value) → List (Value × Value)
  | [] => [(k, v)]
  | e :: rest =>
    match k.compare e.1 with
    | .lt => (k, v) :: e :: rest
    | .eq => (e.1, v) :: rest
    | .gt => e :: insert k v rest

/-- The entries of a map; of those with one key the last value counts. -/
def sortEntries (entries : List (Value × Value)) : List (Value × Value) :=
  entries.foldl (fun done e => insert e.1 e.2 done) []

end Value
end Template
end Rulebook
