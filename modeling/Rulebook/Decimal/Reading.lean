/-
# Reading decimal numbers

A decimal number has an optional sign, digits with at most one point among them and at
least one digit, and an optional exponent; or it is one of the words for infinity and for
no number, in any case. The value is the binary64 number nearest to it.
-/

import Rulebook.Text.Digit
import Rulebook.Text.Case

namespace Rulebook
namespace Decimal

/-- Digits that no rounding to binary64 can tell from given ones, which do not start with a
zero: halfway between two neighbours in that format lies a number of less than 800 digits, so
of what follows the first 800 it only matters whether it is zero. -/
def shortened (digits : List Char) : List Char :=
  digits.take 800 ++ if (digits.drop 800).all (· = '0') then [] else ['1']

/-- The number with given digits, times ten to the power of the exponent, rounded. Exponents
beyond the format's range are settled without computing the power. -/
def nearest (digits : List Char) (exponent : Int) : Float :=
  let digits := digits.dropWhile (· = '0')
  let lead := exponent + digits.length
  if digits = [] then 0.0
  else if 400 < lead then 1.0 / 0.0
  else if lead < -400 then 0.0
  else
    let kept := shortened digits
    let exponent := lead - kept.length
    Float.ofScientific (Text.numberOf kept) (exponent < 0) exponent.natAbs

/-- A whole number with an optional sign. -/
def int? (cs : List Char) : Option Int :=
  let (negative, ds) := match cs with
    | '-' :: rest => (true, rest)
    | '+' :: rest => (false, rest)
    | _ => (false, cs)
  if ds = [] || !ds.all Text.isDigit then none
  else some (if negative then -(Text.numberOf ds : Int) else Text.numberOf ds)

/-- A number without a sign, in digits. -/
def unsigned? (cs : List Char) : Option Float :=
  let whole := cs.takeWhile Text.isDigit
  let rest := cs.dropWhile Text.isDigit
  let (fraction, rest) := match rest with
    | '.' :: more => (more.takeWhile Text.isDigit, more.dropWhile Text.isDigit)
    | _ => ([], rest)
  if whole = [] && fraction = [] then none
  else
    let value (e : Int) := nearest (whole ++ fraction) (e - fraction.length)
    match rest with
    | [] => some (value 0)
    | c :: e => if c = 'e' || c = 'E' then (int? e).map value else none

/-- A number with an optional sign. -/
def real? (cs : List Char) : Option Float :=
  let (negative, body) := match cs with
    | '-' :: rest => (true, rest)
    | '+' :: rest => (false, rest)
    | _ => (false, cs)
  let word := String.ofList body
  let magnitude :=
    if Text.eqIgnoreAsciiCase word "inf" || Text.eqIgnoreAsciiCase word "infinity" then
      some (1.0 / 0.0)
    else if Text.eqIgnoreAsciiCase word "nan" then some (0.0 / 0.0)
    else unsigned? body
  magnitude.map fun x => if negative then -x else x

end Decimal
end Rulebook
