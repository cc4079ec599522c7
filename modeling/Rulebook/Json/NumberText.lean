/-
# Number text

The outline of a number is an optional minus sign, an integer part without leading
zeros, an optional fraction and an optional exponent. What a keeping reader makes of it:

* an integer that fits 64 bits, signed or unsigned, is that integer; `-0` is the real
  negative zero;
* otherwise the leading digits that fit 64 bits make the significand, later digits are
  dropped, and the real is the significand times or divided by a power of ten, rounded
  after the conversion and after each step of at most `10 ^ 308`;
* a result that is not finite is out of range.
-/

import Rulebook.Json.Source
import Rulebook.Text.Digit
import Rulebook.SignedWidth

namespace Rulebook
namespace Json

open Text (isDigit digitValue)

/-- The outline of a number. -/
structure NumberText where
  negative : Bool
  digits : List Char
  fraction : Option (List Char)
  /-- The sign of the exponent (`true` for minus) and its digits. -/
  exponent : Option (Bool × List Char)
deriving DecidableEq, Repr

/-- The greatest significand. -/
def maxSignificand : Nat := Nat.pow 2 64 - 1

/-- The greatest exponent that is told from a greater one. -/
def maxExponent : Nat := Nat.pow 2 31 - 1

/-- Adds digits to a significand as long as it fits; gives the digits that were left. -/
def gather (acc : Nat) : List Char → Nat × List Char
  | [] => (acc, [])
  | c :: rest =>
    if acc * 10 + digitValue c ≤ maxSignificand then gather (acc * 10 + digitValue c) rest
    else (acc, c :: rest)

/-- `x · 10 ^ e`, in steps of at most `10 ^ 308`; nothing if it is not finite. -/
def scale (x : Float) (e : Int) : Option Binary64 :=
  if e.natAbs ≤ 308 then
    let power := Float.ofScientific 1 false e.natAbs
    Binary64.ofFloat? (if 0 ≤ e then x * power else x / power)
  else if x == 0 then some .zero
  else if 0 ≤ e then none
  else scale (x / Float.ofScientific 1 false 308) (e + 308)
termination_by e.natAbs
decreasing_by omega

/-- A real from its sign, its significand and its exponent. -/
def realOf (negative : Bool) (significand : Nat) (e : Int) : Except SyntaxError Number :=
  match scale (UInt64.ofNat significand).toFloat e with
  | none => .error .numberOutOfRange
  | some x => .ok (.real (if negative then .ofFloat (-x.toFloat) else x))

/-- The value of an exponent's digits, or nothing if it is too great to be told. -/
def exponentValue? (ds : List Char) : Option Nat :=
  ds.foldl
    (fun acc c => acc.bind fun n =>
      let m := n * 10 + digitValue c
      if m ≤ maxExponent then some m else none)
    (some 0)

/-- A real from its sign, its significand, the exponent so far and a written exponent. -/
def withExponent (negative : Bool) (significand : Nat) (before : Int) :
    Option (Bool × List Char) → Except SyntaxError Number
  | none => realOf negative significand before
  | some (minus, ds) =>
    match exponentValue? ds with
    | none =>
      if significand ≠ 0 && !minus then .error .numberOutOfRange
      else .ok (.real (if negative then .negZero else .zero))
    | some e =>
      let e : Int := if minus then before - e else before + e
      realOf negative significand (SignedWidth.clamp 32 e)

/-- The number that a keeping reader makes of an outline. -/
def NumberText.value (t : NumberText) : Except SyntaxError Number :=
  let (whole, dropped) := gather 0 t.digits
  match t.fraction, t.exponent, dropped with
  | none, none, [] =>
    if !t.negative then .ok (.int whole)
    else if whole = 0 then .ok (.real .negZero)
    else if whole ≤ Nat.pow 2 63 then .ok (.int (-(whole : Int)))
    else realOf true whole 0
  | none, e, dropped => withExponent t.negative whole dropped.length e
  | some fraction, e, dropped =>
    let (significand, rest) := gather whole fraction
    let after := fraction.length - rest.length
    withExponent t.negative significand ((dropped.length : Int) - after) e

/-- What was read from the front of `s`, and the rest, which is not longer. -/
structure Front (α : Type) (s : List Char) where
  value : α
  rest : List Char
  le : rest.length ≤ s.length

/-- What is left of a text is no longer than the text. -/
theorem length_dropWhile_le (p : Char → Bool) (s : List Char) :
    (s.dropWhile p).length ≤ s.length := by
  induction s with
  | nil => simp
  | cons c rest ih =>
    simp only [List.dropWhile_cons]
    split
    · simp only [List.length_cons]; omega
    · simp

/-- The failure where a digit is missing: at the end of the input only a skipping reader
speaks of the number. -/
def missingDigit : List Char → Fault
  | [] => ⟨.invalidNumber, .endInValue⟩
  | _ => .both .invalidNumber

/-- One or more digits. -/
def scanDigits (s : List Char) : Except Fault (Front (List Char) s) :=
  match s.takeWhile isDigit with
  | [] => .error (missingDigit s)
  | ds => .ok ⟨ds, s.dropWhile isDigit, length_dropWhile_le isDigit s⟩

/-- The integer part: a zero, or digits that do not start with one. -/
def scanWhole (s : List Char) : Except Fault (Front (List Char) s) :=
  match scanDigits s with
  | .error f => .error f
  | .ok t =>
    match t.value with
    | '0' :: _ :: _ => .error (.both .invalidNumber)
    | _ => .ok t

/-- The fraction, if a point stands in front. -/
def scanFraction (s : List Char) : Except Fault (Front (Option (List Char)) s) :=
  match s with
  | '.' :: r =>
    match scanDigits r with
    | .error f => .error f
    | .ok t => .ok ⟨some t.value, t.rest, Nat.le_succ_of_le t.le⟩
  | s => .ok ⟨none, s, Nat.le_refl _⟩

/-- A sign of an exponent: whether it is a minus, and the rest. -/
def scanSign (s : List Char) : Front Bool s :=
  match s with
  | '+' :: r => ⟨false, r, Nat.le_succ _⟩
  | '-' :: r => ⟨true, r, Nat.le_succ _⟩
  | s => ⟨false, s, Nat.le_refl _⟩

/-- The exponent, if its letter stands in front. -/
def scanExponent (s : List Char) : Except Fault (Front (Option (Bool × List Char)) s) :=
  match s with
  | [] => .ok ⟨none, [], Nat.le_refl _⟩
  | c :: r =>
    if c = 'e' || c = 'E' then
      let sign := scanSign r
      match scanDigits sign.rest with
      | .error f => .error f
      | .ok t =>
        .ok ⟨some (sign.value, t.value), t.rest, by
          have := t.le; have := sign.le; simp only [List.length_cons]; omega⟩
    else .ok ⟨none, c :: r, Nat.le_refl _⟩

/-- The outline of a number, after its sign. -/
def scanNumber (negative : Bool) (s : List Char) : Except Fault (Front NumberText s) :=
  match scanWhole s with
  | .error f => .error f
  | .ok whole =>
    match scanFraction whole.rest with
    | .error f => .error f
    | .ok fraction =>
      match scanExponent fraction.rest with
      | .error f => .error f
      | .ok exponent =>
        .ok ⟨⟨negative, whole.value, fraction.value, exponent.value⟩, exponent.rest, by
          have := whole.le; have := fraction.le; have := exponent.le; omega⟩

/-- Digits behind a first one leave no more than what stood behind that one. -/
theorem scanDigits_le {c : Char} {r : List Char} (hc : isDigit c = true)
    {t : Front (List Char) (c :: r)} (h : scanDigits (c :: r) = .ok t) :
    t.rest.length ≤ r.length := by
  simp only [scanDigits, List.takeWhile_cons, hc, if_true, Except.ok.injEq] at h
  subst h
  simpa [List.dropWhile_cons, hc] using length_dropWhile_le isDigit r

/-- `scanDigits_le` for an integer part. -/
theorem scanWhole_le {c : Char} {r : List Char} (hc : isDigit c = true)
    {t : Front (List Char) (c :: r)} (h : scanWhole (c :: r) = .ok t) :
    t.rest.length ≤ r.length := by
  unfold scanWhole at h
  split at h
  · simp at h
  · rename_i u hu
    split at h
    · simp at h
    · simp only [Except.ok.injEq] at h
      exact h ▸ scanDigits_le hc hu

/-- `scanDigits_le` for a number: one that begins with a digit takes at least that. -/
theorem scanNumber_lt {negative : Bool} {c : Char} {r : List Char} (hc : isDigit c = true)
    {t : Front NumberText (c :: r)} (h : scanNumber negative (c :: r) = .ok t) :
    t.rest.length < (c :: r).length := by
  unfold scanNumber at h
  split at h
  · simp at h
  · rename_i whole hw
    split at h
    · simp at h
    · rename_i fraction _
      split at h
      · simp at h
      · rename_i exponent _
        simp only [Except.ok.injEq] at h
        have h₁ := scanWhole_le hc hw
        have h₂ := fraction.le
        have h₃ := exponent.le
        subst h
        simp only [List.length_cons]
        omega

end Json
end Rulebook
