/-
# Filters

Filters make a value of a value. Most of those on texts take any value and write it first;
those on lists take whatever has parts. The value is taken before the arguments, and the
arguments before anything is computed, so the first of them that does not fit is reported.
-/

import Rulebook.Template.Test
import Rulebook.Template.Sorting
import Rulebook.Decimal.Reading

namespace Rulebook
namespace Template

/-- A filter of a value with arguments. -/
abbrev Filter := Value → List Value → Except Failure Value

namespace Filter

/-- A filter that takes a value and arguments. -/
def taking {α β : Type} (read : Value → Except Failure α) (arguments : Taking β)
    (f : α → β → Except Failure Value) : Filter := fun v args => do
  let a ← read v
  let b ← arguments.all args
  f a b

/-- A filter without arguments. -/
def plain (f : Value → Except Failure Value) : Filter :=
  taking Value.asItIs (pure ()) fun v _ => f v

/-- A filter of a text without arguments. -/
def onText (f : String → String) : Filter :=
  taking Value.asText (pure ()) fun s _ => .ok (.text (f s))

/-- Texts as a list. -/
def texts (l : List (List Char)) : Value := .ofItems (l.map fun cs => .text (String.ofList cs))

/-! ### Texts -/

/-- A character that ends a word in a title. -/
def endsWord (c : Char) : Bool :=
  Text.isBlank c ||
    (let n := c.toNat
     (0x21 ≤ n && n ≤ 0x2f) || (0x3a ≤ n && n ≤ 0x40) || (0x5b ≤ n && n ≤ 0x60) ||
       (0x7b ≤ n && n ≤ 0x7e))

/-- Words with their first letters in upper case and the others in lower case. -/
def titleChars (first : Bool) : List Char → List Char
  | [] => []
  | c :: rest =>
    if endsWord c then c :: titleChars true rest
    else if first then Text.upperChar c ++ titleChars false rest
    else Text.lowerChar c ++ titleChars false rest

/-- A text with its first character in upper case and the others in lower case. -/
def capitalize (s : String) : String :=
  match s.toList with
  | [] => ""
  | c :: rest => String.ofList (Text.upperChar c) ++ Text.lower (String.ofList rest)

/-- Drops blank characters, or given ones, at both ends. -/
def trim : Filter :=
  taking Value.asText (.optional Value.asText) fun s chars =>
    match chars with
    | some cs => .ok (.text (String.ofList (Text.stripBoth cs.toList.contains s.toList)))
    | none => .ok (.text (Text.trim s))

/-- Replaces a text by another one. -/
def replace : Filter :=
  taking Value.asText
    (do return (← Taking.needed Value.asText, ← Taking.needed Value.asText))
    fun s (part, new) => .ok (.text (String.ofList (Text.replace part.toList new.toList s.toList)))

/-- Splits a text, at blanks or at a given text, at most so many times. -/
def split : Filter :=
  taking Value.exactText
    (do return (← Taking.optional Value.exactText, ← Taking.optional (Value.asInt 64)))
    fun s (sep, count) =>
      let s := s.toList
      .ok <| texts <| match sep, (count.filter (0 ≤ ·)).map Int.toNat with
        | none, none => Text.words s
        | some sep, none => Text.pieces sep.toList s
        | none, some cuts => Text.wordsUpTo cuts s
        | some sep, some cuts => Text.piecesUpTo sep.toList (cuts + 1) s

/-- The lines of a text. -/
def lines : Filter :=
  taking Value.exactText (pure ()) fun s _ => .ok (texts (Text.lines s.toList))

/-- Joins the parts of a value; one that is not there has none. -/
def join : Filter :=
  taking Value.asItIs (.optional Value.asText) fun v sep => do
    let parts ← if v.isUndefined then pure [] else Sorting.listed v
    return .text ((sep.getD "").intercalate (parts.map Value.display))

/-! ### Numbers -/

/-- An integer as it comes from a real or a text. -/
def wide (n : Int) : Value := .int ⟨.signed128, n⟩

/-- A value as an integer. -/
def toInt (v : Value) : Except Failure Value := do
  match ← v.present with
  | .undefined _ => return .int (.ofInt 0)
  | .none => return .int (.ofInt 0)
  | .bool b => return .ofNat (if b then 1 else 0)
  | .int n => return .int n
  | .real x => return wide x.wholePart
  | .text s =>
    match (Decimal.int? s.toList).filter (SignedWidth.fits 128) with
    | some n => return wide n
    | none =>
      match Real.read? s.toList with
      | some x => return wide x.wholePart
      | none => throw .invalidOperation
  | _ => throw .invalidOperation

/-- A value as a real. -/
def toReal (v : Value) : Except Failure Value := do
  match ← v.present with
  | .undefined _ => return .real (.number 0)
  | .none => return .real (.number 0)
  | .text s =>
    match Real.read? s.toList with
    | some x => return .real x
    | none => throw .invalidOperation
  | v =>
    match v.toReal? false with
    | some x => return .real x
    | none => throw .invalidOperation

/-- A number without its sign. -/
def absolute (v : Value) : Except Failure Value :=
  match v with
  | .int n => if 0 ≤ n.value then .ok (.int n) else Value.computed (-n.value)
  | .real x => .ok (.real x.abs)
  | _ => .error .invalidOperation

/-- A number rounded to so many decimal places, halves away from zero. -/
def round : Filter :=
  taking Value.asItIs (.optional (Value.asInt 32)) fun v places =>
    match v with
    | .int n => .ok (.int n)
    | .real x => .ok (.real (x.unary (Real.roundTo (places.getD 0))))
    | _ => .error .invalidOperation

/-! ### Lists -/

/-- The number of parts. -/
def length (v : Value) : Except Failure Value :=
  match v.length? with
  | some n => .ok (.ofNat n)
  | none => .error .invalidOperation

/-- A text, a list or a series from behind. The keys of a map keep their order, but the names
of arguments and those of what is known about a round are turned around. -/
def reverse (v : Value) : Except Failure Value :=
  match v with
  | .text s => .ok (.text (String.ofList s.toList.reverse))
  | .map _ entries => .ok (.inRow (entries.map (·.1)))
  | .undefined b => .ok (.undefined b)
  | .none => .ok .none
  | v =>
    match v.members? with
    | some members => .ok (.inRow members.reverse)
    | none => .error .invalidOperation

/-- The first part of what has a number of them. -/
def first (v : Value) : Except Failure Value :=
  match v.length? with
  | some _ => .ok ((v.part? 0).getD Value.missing)
  | none => .error .invalidOperation

/-- The last part of a text, a list or a series. -/
def last (v : Value) : Except Failure Value :=
  match v.entries?, v.length? with
  | none, some n => .ok ((v.part? (n - 1)).getD Value.missing)
  | _, _ => .error .invalidOperation

/-- The pairs of keys and values of a map. -/
def items (v : Value) : Except Failure Value :=
  match v.entries? with
  | some entries => .ok (.inRow (entries.map fun e => .ofItems [e.1, e.2]))
  | none => .error .invalidOperation

/-- The sum of the parts. -/
def sum (v : Value) : Except Failure Value := do
  (← v.iterate).foldlM (fun done part =>
    match part with
    | .int _ => done.add part
    | .real _ => done.add part
    | .undefined _ => .ok done
    | _ => .error .invalidOperation) (.int (.ofInt 0))

/-- The parts for which a test decides so; without a test the truth of the part counts. -/
def keep (wanted : Bool) : Filter :=
  taking Value.asItIs (do return (← Taking.optional Value.asText, ← Taking.rest))
    fun v (name, args) => do
      let test : Value → Except Failure Bool ← match name with
        | none => pure fun v => .ok v.isTrue
        | some name =>
          match Test.ofName? name with
          | some test => pure fun v => test v args
          | none => throw .unknownTest
      return .ofItems (← (← v.iterate).filterM fun v => (test v).map (· == wanted))

/-- A value, or another one if it is not there or, on request, not true. -/
def default : Filter :=
  taking Value.asItIs (do return (← Taking.next?, ← Taking.next?)) fun v (other, untrueToo) => do
    let untrueToo ← match untrueToo with
      | some flag => flag.decides
      | none => pure false
    if v.isUndefined || (untrueToo && !v.isTrue) then return other.getD (.text "")
    return v

/-- The filter of a name. -/
def ofName? : String → Option Filter
  | "upper" => some (onText Text.upper)
  | "lower" => some (onText Text.lower)
  | "title" => some (onText fun s => String.ofList (titleChars true s.toList))
  | "capitalize" => some (onText capitalize)
  | "trim" => some trim
  | "replace" => some replace
  | "split" => some split
  | "lines" => some lines
  | "join" => some join
  | "string" => some (plain fun v => v.present.map fun v => .text v.display)
  | "int" => some (plain toInt)
  | "float" => some (plain toReal)
  | "abs" => some (plain absolute)
  | "round" => some round
  | "length" | "count" => some (plain length)
  | "reverse" => some (plain reverse)
  | "first" => some (plain first)
  | "last" => some (plain last)
  | "items" => some (plain items)
  | "list" => some (plain fun v => (Sorting.listed v).map .ofItems)
  | "sort" => some Sorting.sort
  | "unique" => some Sorting.unique
  | "min" => some (plain Sorting.least)
  | "max" => some (plain Sorting.greatest)
  | "sum" => some (plain sum)
  | "select" => some (keep true)
  | "reject" => some (keep false)
  | "default" | "d" => some default
  | _ => none

end Filter

end Template
end Rulebook
