/-
# Timestamps

A `Timestamp` is a point of time in seconds since 1970-01-01 with nanoseconds of that
second; in a leap second the nanoseconds go on beyond a thousand million.

Read is the RFC 3339 form `2026-01-31T23:59:59.5+02:00` with some leniency:

* blank characters may stand before every number and around the separators, and between
  the seconds and the offset;
* numbers may lack leading zeros, and a year with a sign may have any number of digits;
* date and time are separated by `t`, `T` or a space;
* the offset is `Z`, `z`, `UTC` in any case, or a sign, two digits of hours and two of
  minutes, with any colons and blanks between them.

A number out of its range is refused where it stands, a date that the calendar lacks at
the end.
-/

import Rulebook.Time.Calendar
import Rulebook.Text.Blank
import Rulebook.Text.Case
import Rulebook.Text.Digit
import Rulebook.Json.Decode
import Rulebook.SignedWidth

namespace Rulebook

/-- A point of time. -/
@[ext]
structure Timestamp where
  /-- Seconds since the start of 1970, leap seconds not counted. -/
  seconds : Int
  /-- Nanoseconds of the second. -/
  nanos : Nat
deriving DecidableEq, Repr

namespace Timestamp

/-- The number of nanoseconds of a second. -/
def nanosPerSecond : Nat := 1000000000

/-- The order of time. -/
def le (a b : Timestamp) : Bool :=
  decide (a.seconds < b.seconds) || (a.seconds == b.seconds && decide (a.nanos ≤ b.nanos))

/-- The earlier one of two points of time. -/
def earlier (a b : Timestamp) : Timestamp := if a.le b then a else b

/-- Why a text is no timestamp. -/
inductive ReadError where
  | outOfRange
  /-- Beyond the ends of the calendar once the offset is taken off. -/
  | noSuchTime
  | invalid
  | tooShort
  | tooLong
deriving DecidableEq, Repr

/-- The wording of a refusal. -/
def ReadError.message : ReadError → String
  | outOfRange => "input is out of range"
  | noSuchTime => "no possible date and time matching input"
  | invalid => "input contains invalid characters"
  | tooShort => "premature end of input"
  | tooLong => "trailing input"

/-- Reads characters from the front. -/
abbrev Reader := StateT (List Char) (Except ReadError)

/-- Passes over blank characters. -/
def skipBlank : Reader Unit := modify fun cs => cs.dropWhile Text.isBlank

/-- One given character. -/
def mark (c : Char) : Reader Unit := do
  match ← get with
  | [] => throw .tooShort
  | d :: rest => if d = c then set rest else throw .invalid

/-- One to `width` digits, without a width any number of them. -/
def digits (width : Option Nat) : Reader (List Char) := do
  let cs ← get
  match cs with
  | [] => throw .tooShort
  | d :: _ =>
    if !Text.isDigit d then throw .invalid
    let ds := (match width with
      | some w => cs.take w
      | none => cs).takeWhile Text.isDigit
    set (cs.drop ds.length)
    return ds

/-- A number of at most two digits between two bounds. -/
def part (lo hi : Nat) : Reader Nat := do
  skipBlank
  let n := Text.numberOf (← digits (some 2))
  if lo ≤ n ∧ n ≤ hi then return n else throw .outOfRange

/-- A year of at most four digits, or of any number of digits after a sign. -/
def signedYear : Reader Int := do
  match ← get with
  | '-' :: rest =>
    set rest
    return -(Text.numberOf (← digits none) : Int)
  | '+' :: rest =>
    set rest
    return (Text.numberOf (← digits none) : Int)
  | _ => return (Text.numberOf (← digits (some 4)) : Int)

/-- A year of 32 bits. -/
def year : Reader Int := do
  skipBlank
  let y ← signedYear
  if SignedWidth.fits 32 y then return y else throw .outOfRange

/-- What separates the date from the time. -/
def separator : Reader Unit := do
  match ← get with
  | [] => throw .tooShort
  | c :: rest => if c = 't' ∨ c = 'T' ∨ c = ' ' then set rest else throw .invalid

/-- A fraction of a second in nanoseconds; digits beyond the ninth are passed over. -/
def fraction : Reader Nat := do
  match ← get with
  | '.' :: rest =>
    set rest
    let ds ← digits (some 9)
    modify fun cs => cs.dropWhile Text.isDigit
    return Text.numberOf ds * Nat.pow 10 (9 - ds.length)
  | _ => return 0

/-- Two characters that have to be digits. -/
def twoDigits : Reader (Char × Char) := do
  match ← get with
  | [] => throw .tooShort
  | [c] => throw (if c.toNat < 0x80 then .tooShort else .invalid)
  | c :: d :: rest =>
    if !(Text.isDigit c && Text.isDigit d) then throw .invalid
    set rest
    return (c, d)

/-- Hours and minutes in seconds, with any colons and blanks between them. -/
def clockDifference : Reader Nat := do
  let (h₁, h₂) ← twoDigits
  modify fun cs => cs.dropWhile fun c => c == ':' || Text.isBlank c
  let (m₁, m₂) ← twoDigits
  if '6' ≤ m₁ then throw .outOfRange
  return Text.numberOf [h₁, h₂] * 3600 + Text.numberOf [m₁, m₂] * 60

/-- The seconds by which a place's clock is ahead. -/
def offset : Reader Int := do
  let cs ← get
  if Text.eqIgnoreAsciiCase (String.ofList (cs.take 3)) "utc" then
    set (cs.drop 3)
    return 0
  match cs with
  | [] => throw .tooShort
  | c :: rest =>
    set rest
    if c = 'Z' ∨ c = 'z' then return 0
    else if c = '+' then return (← clockDifference)
    else if c = '-' ∨ c = '\u2212' then return -(← clockDifference : Int)
    else throw .invalid

/-- The years that the calendar covers. -/
def covers (year : Int) : Bool := -262143 ≤ year && year ≤ 262142

/-- The point of time that a clock shows which is ahead by some seconds. -/
def ofClock (year : Int) (month day hour minute second nanos : Nat) (ahead : Int) :
    Except ReadError Timestamp :=
  if !covers year || Calendar.monthLength year month < day || 86400 ≤ ahead.natAbs then
    .error .outOfRange
  else
    -- the sixtieth second is the fifty-ninth, longer
    let (second, nanos) := if second = 60 then (59, nanos + nanosPerSecond) else (second, nanos)
    let seconds := Calendar.dayNumber year month day * 86400
      + (hour * 3600 + minute * 60 + second : Nat) - ahead
    if covers (Calendar.dateOf (seconds / 86400)).1 then .ok ⟨seconds, nanos⟩
    else .error .noSuchTime

/-- Reads a date, a time and an offset. -/
def reader : Reader Timestamp := do
  let y ← year
  skipBlank
  mark '-'
  let month ← part 1 12
  skipBlank
  mark '-'
  let day ← part 1 31
  separator
  let hour ← part 0 23
  skipBlank
  mark ':'
  let minute ← part 0 59
  skipBlank
  mark ':'
  let second ← part 0 60
  let nanos ← fraction
  skipBlank
  let ahead ← offset
  skipBlank
  if (← get) ≠ [] then throw .tooLong
  ofClock y month day hour minute second nanos ahead

/-- The point of time that a text names. -/
def read (text : String) : Except ReadError Timestamp :=
  (reader.run text.toList).map (·.1)

/-- A number in decimal digits, with zeros in front up to a width. -/
def padded (width n : Nat) : String :=
  String.ofList (Decimal.padDigits width (Decimal.digitsOf n))

/-- A year; one that has not four digits is written with its sign. -/
def yearText (year : Int) : String :=
  if 0 ≤ year ∧ year ≤ 9999 then padded 4 year.natAbs
  else (if year < 0 then "-" else "+") ++ padded 4 year.natAbs

/-- A fraction in three, six or nine digits, whichever is enough. -/
def fractionText (nanos : Nat) : String :=
  if nanos = 0 then ""
  else if nanos % 1000000 = 0 then "." ++ padded 3 (nanos / 1000000)
  else if nanos % 1000 = 0 then "." ++ padded 6 (nanos / 1000)
  else "." ++ padded 9 nanos

/-- The RFC 3339 form in UTC. -/
def text (t : Timestamp) : String :=
  let (year, month, day) := Calendar.dateOf (t.seconds / 86400)
  let ofDay := (t.seconds % 86400).toNat
  let second := ofDay % 60 + t.nanos / nanosPerSecond
  yearText year ++ "-" ++ padded 2 month ++ "-" ++ padded 2 day ++ "T"
    ++ padded 2 (ofDay / 3600) ++ ":" ++ padded 2 (ofDay / 60 % 60) ++ ":" ++ padded 2 second
    ++ fractionText (t.nanos % nanosPerSecond) ++ "Z"

/-- The written form. -/
def encode (t : Timestamp) : Json := .string t.text

/-- Reads a timestamp from a JSON string. -/
def decode : Json.Decoder Timestamp :=
  Json.Decode.stringVia "an RFC 3339 formatted date and time string" fun text =>
    (read text).mapError ReadError.message

end Timestamp

end Rulebook
