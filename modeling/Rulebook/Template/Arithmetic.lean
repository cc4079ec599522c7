/-
# Operators of templates

Integers are computed exactly and have 128 bits; a result beyond them is a failure. If an
operand is a real, both are. A truth value counts as zero or one. Division of integers
rounds down for a positive divisor and up for a negative one, so that the remainder is
never negative. Texts are joined by `+`, texts and lists are repeated by `*`, and what
becomes of lists is a series.
-/

import Rulebook.Template.Part
import Rulebook.Text.Search

namespace Rulebook
namespace Template
namespace Value

/-- A computed integer. -/
def computed (n : Int) : Except Failure Value :=
  if SignedWidth.fits 128 n then .ok (int (.ofInt n)) else .error .invalidOperation

/-- How often something is repeated. -/
def times (count : Value) : Except Failure Nat :=
  match count.toInt? with
  | some n =>
    if 0 ≤ n ∧ n < Nat.pow 2 64 then .ok n.toNat else .error .invalidOperation
  | Option.none => .error .invalidOperation

/-- A text so many times, by doubling. -/
def repeatText (s : String) (n : Nat) : String :=
  if _h : n = 0 then ""
  else
    let half := repeatText s (n / 2)
    if n % 2 = 1 then half ++ half ++ s else half ++ half
termination_by n
decreasing_by omega

/-- The number of bytes that a repeated text can have. -/
def maxRepeated : Nat := 100000000

/-- A text, so many times. -/
def timesText (s : String) (count : Value) : Except Failure Value := do
  let n ← times count
  if maxRepeated < s.utf8ByteSize * n then throw .invalidOperation
  return text (repeatText s n)

/-- What stands in a row, so many times. -/
def timesRow (pool : List Value) (arrangement : Arrangement) (count : Value) :
    Except Failure Value := do
  return series Option.none pool (arrangement.repeated (← times count))

/-- The number of times that a row can be joined to the end of a series. -/
def maxJoins : Nat := 32

/-- Two rows, one behind the other: a series, or a list if the first one has grown that way
too often. -/
def joinRows (p q : List Value) (a b : Arrangement) : Value :=
  let joined := a.joined b p.length
  if maxJoins < joined.joins then ofItems (joined.items (p ++ q))
  else series Option.none (p ++ q) joined

/-- The sum of numbers, or texts or lists joined. -/
def add (a b : Value) : Except Failure Value :=
  match a.row?, b.row? with
  | some (p, a), some (q, b) => .ok (joinRows p q a b)
  | _, _ =>
    match operands? false a b with
    | some (.ints m n) => computed (m + n)
    | some (.reals x y) => .ok (real (x.binary (· + ·) y))
    | some (.texts s t) => .ok (text (s ++ t))
    | Option.none => .error .invalidOperation

/-- The difference of numbers. -/
def subtract (a b : Value) : Except Failure Value :=
  match operands? false a b with
  | some (.ints m n) => computed (m - n)
  | some (.reals x y) => .ok (real (x.binary (· - ·) y))
  | _ => .error .invalidOperation

/-- The product of numbers, or a text or a list repeated. -/
def multiply (a b : Value) : Except Failure Value :=
  match a, b with
  | text s, n => timesText s n
  | n, text s => timesText s n
  | a, b =>
    match a.row?, b.row? with
    | some (pool, arrangement), _ => timesRow pool arrangement b
    | Option.none, some (pool, arrangement) => timesRow pool arrangement a
    | Option.none, Option.none =>
      match operands? false a b with
      | some (.ints m n) => computed (m * n)
      | some (.reals x y) => .ok (real (x.binary (· * ·) y))
      | _ => .error .invalidOperation

/-- The quotient of numbers as reals. -/
def divide (a b : Value) : Except Failure Value :=
  match a.toReal? false, b.toReal? false with
  | some x, some y => .ok (real (x.binary (· / ·) y))
  | _, _ => .error .invalidOperation

/-- The whole quotient of numbers. -/
def floorDivide (a b : Value) : Except Failure Value :=
  match operands? false a b with
  | some (.ints m n) => if n = 0 then .error .invalidOperation else computed (m / n)
  | some (.reals x y) => .ok (real (x.binary Real.quotient y))
  | _ => .error .invalidOperation

/-- The remainder of numbers; where the quotient is too large, there is none. -/
def remainder (a b : Value) : Except Failure Value :=
  match operands? false a b with
  | some (.ints m n) =>
    if n = 0 then .error .invalidOperation
    else (computed (m / n)).bind fun _ => computed (m % n)
  | some (.reals x y) => .ok (real (x.binary Real.remainder y))
  | _ => .error .invalidOperation

/-- A power of numbers. -/
def power (a b : Value) : Except Failure Value :=
  match operands? false a b with
  | some (.ints m n) =>
    if n < 0 ∨ (Nat.pow 2 32 : Int) ≤ n then .error .invalidOperation
    else if m.natAbs ≤ 1 then computed (Int.pow m (if n = 0 then 0 else 2 - n.toNat % 2))
    else if 128 ≤ n then .error .invalidOperation
    else computed (Int.pow m n.toNat)
  | some (.reals x y) => .ok (real (x.binary Float.pow y))
  | _ => .error .invalidOperation

/-- A number with the other sign. The unsigned counterpart of the least integer stays. -/
def negate (v : Value) : Except Failure Value :=
  match v with
  | int n =>
    if n.form = .unsigned128 ∧ n.value = SignedWidth.half 128 then .ok (int n)
    else
      match n.signed? with
      | some m => computed (-m)
      | Option.none => .error .invalidOperation
  | real x => .ok (real x.negate)
  | _ => .error .invalidOperation

/-- The value occurs in a text, a list or, as a key, in a map. -/
def isIn (v container : Value) : Except Failure Bool :=
  match container with
  | undefined _ => .ok false
  | text s => .ok (Text.occursIn v.display.toList s.toList)
  | function _ => .ok false
  | w =>
    match w.row?, w.entries? with
    | some (pool, arrangement), _ => .ok (arrangement.any pool fun part => part.same v)
    | Option.none, some entries => .ok (find? v entries).isSome
    | Option.none, Option.none => .error .invalidOperation

end Value
end Template
end Rulebook
