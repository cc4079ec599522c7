/-
# Durations

A length of time in whole nanoseconds. It is written as full seconds and the nanoseconds
beyond them; on reading, nanoseconds of a second or more are carried over. Sums are as long as
they come out: no limit is put on them.
-/

import Rulebook.Json.Decode

namespace Rulebook

/-- A length of time. -/
@[ext]
structure Duration where
  nanos : Nat
deriving DecidableEq, Repr

namespace Duration

/-- The number of nanoseconds of a second. -/
def perSecond : Nat := 1000000000

/-- No time. -/
def zero : Duration := ⟨0⟩

/-- One after the other. -/
def add (a b : Duration) : Duration := ⟨a.nanos + b.nanos⟩

/-- The length of time of some seconds and nanoseconds. -/
def ofParts (seconds nanos : Nat) : Duration := ⟨seconds * perSecond + nanos⟩

/-- The written form. -/
def encode (d : Duration) : Json :=
  .object [("secs", Json.nat (d.nanos / perSecond)), ("nanos", Json.nat (d.nanos % perSecond))]

/-- The fields of a written duration. -/
def fields : Json.Fields (Nat × Nat) :=
  Prod.mk
    <$> .field "secs" (Json.Decode.natBelow (Nat.pow 2 64) "u64")
    <*> .field "nanos" (Json.Decode.natBelow (Nat.pow 2 32) "u32")

/-- Reads a duration whose full seconds have 64 bits. -/
def decode : Json.Decoder Duration := fun s =>
  match Json.Decode.recordAs "struct Duration" "struct Duration" true fields s with
  | .error e => .error e
  | .ok (seconds, nanos) =>
    let d := ofParts seconds nanos
    if d.nanos / perSecond < Nat.pow 2 64 then .ok d
    else .error (.rejected "overflow deserializing Duration")

end Duration

end Rulebook
