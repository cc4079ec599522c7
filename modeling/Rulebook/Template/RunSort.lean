/-
# Sorting by runs

A stable sort for a relation `before`, of which nothing is asked. If it is an order, equal
values keep their places and there is nothing else to say. If it is none, because some values
are equal to all others, say, then the result depends on which values are compared, and all of
that is laid down here.

| values | how they are sorted |
| --- | --- |
| up to 20 | each is put behind the last one that it does not come before (`inserted`) |
| up to 64 | in sorted runs, which are merged |
| more | in runs that are sorted already or wait to be |

A run that is sorted already has to have some length (`goodLength`). Of up to 64 values the
others have at most 32, which are sorted at once: two halves are, which are merged from both
ends (`sortFew`). Of more values, neighbours that wait are sorted together, by partitions around
a pivot (`partitioned`), and sorted ones are merged.

Which neighbours are merged first depends on where they meet: the meeting point has a depth in
a balanced tree over all places (`depthAt`), and the deeper ones go first.

To merge from both ends can show that the relation contradicts itself. Then there is no result.
-/

namespace Rulebook
namespace Template
namespace RunSort

variable {α : Type} (before : α → α → Bool)

/-! ### Few values -/

/-- A value put behind the last one that it does not come before; the values stand last
first. -/
def insertBehind (v : α) : List α → List α
  | [] => [v]
  | w :: rest => if before v w then w :: insertBehind v rest else v :: w :: rest

/-- Values put one after the other behind some that are sorted. -/
def insertedBehind (sorted values : List α) : List α :=
  (values.foldl (fun done v => insertBehind before v done) sorted.reverse).reverse

/-- The values put in one after the other. -/
def inserted (values : List α) : List α := insertedBehind before [] values

/-- Two values in order. -/
def sortTwo (a b : α) : α × α := if before b a then (b, a) else (a, b)

/-- Four values in order: two pairs are, of which the lesser and the greater values are
compared, and then what is left. -/
def sortFour (a b c d : α) : List α :=
  let (a, b) := sortTwo before a b
  let (c, d) := sortTwo before c d
  let (least, left, right, greatest) :=
    match before c a, before d b with
    | false, false => (a, b, c, d)
    | false, true => (a, c, d, b)
    | true, false => (c, a, b, d)
    | true, true => (c, a, d, b)
  let (left, right) := sortTwo before left right
  [least, left, right, greatest]

/-- The values of a half: the first four of them at once, if there are enough in both halves. -/
def sortHalf (enough : Bool) (values : List α) : List α :=
  match enough, values with
  | true, a :: b :: c :: d :: rest => insertedBehind before (sortFour before a b c d) rest
  | _, values => inserted before values

/-- What is left of two halves between their places: each from the first place on and up to
the second one, which is not reached. -/
structure Halves where
  left : Nat × Nat
  right : Nat × Nat

/-- Merges two halves from both ends, so many values at each end; what has been taken from the
front comes last first. A single value that is left then goes between, and the halves have
to be used up. -/
def mergeEnds (v : Array α) : Nat → Halves → List α → List α → Option (List α)
  | 0, h, front, back =>
    if v.size % 2 = 0 then
      if h.left.1 = h.left.2 ∧ h.right.1 = h.right.2 then some (front.reverse ++ back) else none
    else if h.left.1 < h.left.2 then
      if h.left.1 + 1 = h.left.2 ∧ h.right.1 = h.right.2 then
        v[h.left.1]?.map fun x => front.reverse ++ x :: back
      else none
    else if h.left.1 = h.left.2 ∧ h.right.1 + 1 = h.right.2 then
      v[h.right.1]?.map fun x => front.reverse ++ x :: back
    else none
  | n + 1, h, front, back =>
    match v[h.left.1]?, v[h.right.1]?, v[h.left.2 - 1]?, v[h.right.2 - 1]? with
    | some a, some b, some c, some d =>
      let (l, r, x) :=
        if before b a then (h.left.1, h.right.1 + 1, b) else (h.left.1 + 1, h.right.1, a)
      let (lEnd, rEnd, y) :=
        if before d c then (h.left.2 - 1, h.right.2, c) else (h.left.2, h.right.2 - 1, d)
      mergeEnds v n ⟨(l, lEnd), (r, rEnd)⟩ (x :: front) (y :: back)
    | _, _, _, _ => none

/-- The number of values that are sorted as few. -/
def maxFew : Nat := 32

/-- Few values, by halves. -/
def sortFew (values : List α) : Option (List α) :=
  let half := values.length / 2
  if half = 0 then some values
  else
    let sorted := sortHalf before (4 ≤ half)
    let v := (sorted (values.take half) ++ sorted (values.drop half)).toArray
    mergeEnds before v half ⟨(0, half), (half, v.size)⟩ [] []

/-! ### Runs -/

/-- Values next to each other that are sorted, or wait to be. -/
structure Run (α : Type) where
  values : List α
  isSorted : Bool

/-- Two sorted runs merged, from the front if the first one is not longer and else from the
back. -/
def merged (a b : List α) : List α :=
  if a.length ≤ b.length then a.merge b fun x y => !before y x
  else (b.reverse.merge a.reverse fun y x => !before y x).reverse

/-- Two neighbours in one run: unless both wait to be sorted, they are merged. `sort` sorts
what waits. -/
def Run.join (sort : List α → Option (List α)) (a b : Run α) : Option (Run α) := do
  if !a.isSorted && !b.isSorted then return ⟨a.values ++ b.values, false⟩
  let x ← if a.isSorted then some a.values else sort a.values
  let y ← if b.isSorted then some b.values else sort b.values
  return ⟨merged before x y, true⟩

/-- How many values behind a first one each come before the one in front of them, if they are
`falling`, or else do not. -/
def steps (falling : Bool) : α → List α → Nat
  | _, [] => 0
  | a, b :: rest => if before b a == falling then steps falling b rest + 1 else 0

/-- Whether the values at the front fall, and how many do, or else rise or stay. -/
def frontRun : List α → Bool × Nat
  | a :: b :: rest =>
    let falling := before b a
    (falling, steps before falling b rest + 2)
  | values => (false, values.length)

/-- The first run of so many values, and what is left: one that is sorted and has a good
length; or else, if runs are sorted at once (`eager`), one of few values, or one of that
length that waits. -/
def firstRun (good : Nat) (eager : Bool) (count : Nat) (values : List α) :
    Option (Run α × List α) :=
  let (falling, length) := if good ≤ count then frontRun before values else (false, 0)
  if good ≤ count ∧ good ≤ length then
    let run := values.take length
    some (⟨if falling then run.reverse else run, true⟩, values.drop length)
  else if eager then
    (sortFew before (values.take maxFew)).map fun run => (⟨run, true⟩, values.drop maxFew)
  else some (⟨values.take good, false⟩, values.drop good)

/-- The depth of the place where two runs meet, among `count` places: `start` and `stop` are
where the runs begin and end. -/
def depthAt (count start place stop : Nat) : Nat :=
  let scale := (Nat.pow 2 62 + count - 1) / count
  let parted := (scale * (start + place)) ^^^ (scale * (place + stop))
  if parted = 0 then 64 else 63 - parted.log2

/-- Joins a run with those in front of it, the last of which comes first, as long as the place
where they meet has at least a depth. The very first run stays. -/
def collapse (sort : List α → Option (List α)) (depth : Nat) (run : Run α) :
    List (Run α × Nat) → Option (Run α × List (Run α × Nat))
  | (left, d) :: next :: rest =>
    if depth ≤ d then do
      collapse sort depth (← Run.join before sort left run) (next :: rest)
    else some (run, (left, d) :: next :: rest)
  | stack => some (run, stack)

/-- The least length of a run that is good enough among so many values. -/
def goodLength (count : Nat) : Nat :=
  if count ≤ 64 * 64 then min (count - count / 2) 64
  else
    let shift := (1 + count.log2) / 2
    (Nat.pow 2 shift + count / Nat.pow 2 shift) / 2

/-- Takes runs from the front of `count` values, `scanned` of which have been taken, and joins
them; `run` is the latest one. There are at most so many runs to come. -/
def joinRuns (sort : List α → Option (List α)) (eager : Bool) (count : Nat) :
    Nat → Nat → Run α → List (Run α × Nat) → List α → Option (Run α)
  | 0, _, run, _, _ => some run
  | _, _, run, stack, [] => (collapse before sort 0 run stack).map (·.1)
  | n + 1, scanned, run, stack, values => do
    let (next, rest) ← firstRun before (goodLength count) eager (count - scanned) values
    let stop := scanned + next.values.length
    let depth := depthAt count (scanned - run.values.length) scanned stop
    let (run, stack) ← collapse before sort depth run stack
    joinRuns sort eager count n stop next ((run, depth) :: stack) rest

/-- Values sorted by runs; `sort` sorts those that wait. -/
def byRuns (sort : List α → Option (List α)) (eager : Bool) (values : List α) :
    Option (List α) := do
  let count := values.length
  let run ← joinRuns before sort eager count (count + 1) 0 ⟨[], true⟩ [] values
  if run.isSorted then return run.values else sort run.values

/-! ### Partitions -/

/-- The one of three places that stands between the others. -/
def median (less : Nat → Nat → Bool) (a b c : Nat) : Nat :=
  let x := less a b
  if x == less a c then if less b c == x then b else c else a

/-- The place of a middle value, of three parts of a size from three places on; of large parts
a middle value is taken itself. -/
def middle (less : Nat → Nat → Bool) (a b c size : Nat) : Nat :=
  if h : 8 ≤ size then
    let part := size / 8
    let inside (a : Nat) := middle less a (a + part * 4) (a + part * 7) part
    median less (inside a) (inside b) (inside c)
  else median less a b c
termination_by size
decreasing_by all_goals omega

/-- The place of a pivot. -/
def pivotPlace (v : Array α) : Nat :=
  let less (i j : Nat) : Bool :=
    match v[i]?, v[j]? with
    | some a, some b => before a b
    | _, _ => false
  let part := v.size / 8
  let (a, b, c) := (0, part * 4, part * 7)
  if v.size < 64 then median less a b c else middle less a b c part

/-- Values on the left and on the right side; the one at a place is not asked. -/
def sides (values : List α) (place : Nat) (own : Bool) (left : α → Bool) : List α × List α :=
  let (l, r) := values.zipIdx.partition fun (v, i) => if i = place then own else left v
  (l.map (·.1), r.map (·.1))

/-- Values sorted by partitions, so many of them one inside the other. A pivot that is not
behind the one that all values stand behind or beside, or that has nothing in front of it, is
set apart with its equals. -/
def partitioned : Nat → Option α → List α → Option (List α)
  | limit, above, values =>
    if values.length ≤ maxFew then sortFew before values
    else
      match limit with
      | 0 => byRuns before some true values
      | limit + 1 => do
        let v := values.toArray
        let place := pivotPlace before v
        let pivot ← v[place]?
        let (left, right) :=
          if above.any fun a => !before a pivot then ([], values)
          else sides values place false fun x => before x pivot
        if left.isEmpty then
          let (equal, others) := sides values place true fun x => !before pivot x
          return equal ++ (← partitioned limit none others)
        else return (← partitioned limit above left) ++ (← partitioned limit (some pivot) right)

/-- Values sorted by partitions. -/
def sortMany (values : List α) : Option (List α) :=
  partitioned before (2 * (values.length ||| 1).log2) none values

/-- The values such that none stands behind one that it comes before, if the relation allows
that. -/
def sort (values : List α) : Option (List α) :=
  if values.length ≤ 20 then some (inserted before values)
  else byRuns before (sortMany before) (values.length ≤ 2 * maxFew) values

end RunSort
end Template
end Rulebook
