/-
# Arrangements

What stands where in a series: items of a pool, each of them any number of times and in any
order. An arrangement has a number of places and tells for each place which item of the pool
stands there. So something that is repeated a thousand million times takes no more room than
what is repeated.

| arrangement | what stands there |
| --- | --- |
| `all n` | the items of a pool, one after the other |
| `repeated a k` | what `a` arranges, `k` times |
| `joined a b n` | what `a` arranges, and what `b` does from the pool behind the first `n` items |
| `chosen a k f` | `k` items of what `a` arranges, the places of which `f` tells |
-/

namespace Rulebook
namespace Template

/-- Which items of a pool stand at which places. -/
structure Arrangement where
  /-- The number of places. -/
  length : Nat
  /-- The number of the item at a place. -/
  item : Nat → Nat
  /-- How often something has been joined to the end. -/
  joins : Nat

namespace Arrangement

/-- The items of a pool of a size, one after the other. -/
def all (size : Nat) : Arrangement := ⟨size, id, 0⟩

/-- What is arranged, so many times. -/
def repeated (a : Arrangement) (times : Nat) : Arrangement :=
  ⟨a.length * times, fun i => a.item (i % a.length), 0⟩

/-- What is arranged from the first `size` items of a pool, and behind it what is arranged
from the others. -/
def joined (a b : Arrangement) (size : Nat) : Arrangement :=
  ⟨a.length + b.length,
    fun i => if i < a.length then a.item i else size + b.item (i - a.length),
    a.joins + 1⟩

/-- So many of the places, in an order. -/
def chosen (a : Arrangement) (count : Nat) (place : Nat → Nat) : Arrangement :=
  ⟨count, fun i => a.item (place i), 0⟩

/-- The first places, at most so many. -/
def upTo (a : Arrangement) (count : Nat) : Arrangement := { a with length := min count a.length }

variable {α : Type}

/-- What stands at a place. -/
def get? (a : Arrangement) (pool : List α) (i : Nat) : Option α :=
  if i < a.length then pool[a.item i]? else none

/-- Everything in order. -/
def items (a : Arrangement) (pool : List α) : List α :=
  let pool := pool.toArray
  (List.range a.length).filterMap fun i => pool[a.item i]?

/-- Something that has a property stands at one of the `count` places from a place on. -/
def anyFrom (holds : Nat → Bool) : Nat → Nat → Bool
  | _, 0 => false
  | i, count + 1 => holds i || anyFrom holds (i + 1) count

/-- Something that has a property stands somewhere. -/
def any (a : Arrangement) (pool : List α) (p : α → Bool) : Bool :=
  let found := (pool.map p).toArray
  anyFrom (fun i => found[a.item i]?.getD false) 0 a.length

/-! ### Slices -/

/-- A bound of a slice as a place: negative ones count from the end, and none lies outside. -/
def place (length : Nat) (bound : Int) : Nat :=
  min length (if bound < 0 then bound + length else bound).toNat

/-- Every `step`-th place from one bound up to the other one, which is not reached. -/
def forward (a : Arrangement) (start stop : Option Int) (step : Nat) : Arrangement :=
  let first := (start.map (place a.length)).getD 0
  let last := (stop.map (place a.length)).getD a.length
  a.chosen ((last - first + (step - 1)) / step) fun i => first + i * step

/-- Every `step`-th place from one bound down to the other one, which is not reached unless
it is the very first place. -/
def backward (a : Arrangement) (start stop : Option Int) (step : Nat) : Arrangement :=
  let n := a.length
  let first := min (n - 1) ((start.map (place n)).getD n)
  let last := (stop.map fun s => if s < 0 then place n s else s.toNat).getD 0
  let count :=
    if n = 0 then 0
    else if last = 0 then (first + step) / step
    else (first - last + (step - 1)) / step
  a.chosen count fun i => first - i * step

/-- The places between two bounds, in steps; a negative step goes from the end. -/
def slice (a : Arrangement) (start stop : Option Int) (step : Int) : Arrangement :=
  if 0 < step then a.forward start stop step.toNat else a.backward start stop step.natAbs

end Arrangement

end Template
end Rulebook
