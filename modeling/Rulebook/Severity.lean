/-
# Severity

Specification §3 (Data Model).

A rule has one of three severities, in ascending order `low`, `medium`, `high`. A text
names a severity up to white space around it and up to case. A resource may cap the
severity of its findings by a severity or mute them with the word `none`.
-/

import Rulebook.Text.Blank
import Rulebook.Text.Case
import Rulebook.Text.Padded
import Rulebook.Json.Decode

namespace Rulebook

/-- The severity of a rule or a finding. -/
inductive Severity where
  | low
  | medium
  | high
deriving DecidableEq, Repr

namespace Severity

/-- The place of a severity in the order. -/
def rank : Severity → Nat
  | low => 0
  | medium => 1
  | high => 2

instance : LE Severity := ⟨fun a b => a.rank ≤ b.rank⟩
instance : LT Severity := ⟨fun a b => a.rank < b.rank⟩

instance (a b : Severity) : Decidable (a ≤ b) := inferInstanceAs (Decidable (a.rank ≤ b.rank))
instance (a b : Severity) : Decidable (a < b) := inferInstanceAs (Decidable (a.rank < b.rank))

/-- The severity is at or above a minimum. -/
def meets (s minimum : Severity) : Bool := minimum ≤ s

/-- The name of a severity. -/
def name : Severity → String
  | low => "LOW"
  | medium => "MEDIUM"
  | high => "HIGH"

/-- The severity with exactly this name. -/
def ofName? (name : String) : Option Severity :=
  if name = "LOW" then some low
  else if name = "MEDIUM" then some medium
  else if name = "HIGH" then some high
  else none

/-- The wording of the refusal of a text that names no severity. -/
def refusal (text : String) : String :=
  "invalid severity '" ++ text ++ "', expected one of LOW, MEDIUM, HIGH"

/-- The severity that a text names, up to white space around it and up to case. -/
def parse? (text : String) : Option Severity :=
  ofName? (Text.upper (Text.trim text))

/-- The written form. -/
def encode (s : Severity) : Json := .string s.name

/-- Reads a severity from a JSON string. -/
def decode : Json.Decoder Severity :=
  Json.Decode.stringVia "a string" fun text =>
    match parse? text with
    | some s => .ok s
    | none => .error (refusal text)

end Severity

/-- An upper bound on the severity of a resource's findings. -/
inductive SeverityCap where
  /-- Findings are recorded, but never counted. -/
  | mute
  | level (severity : Severity)
deriving DecidableEq, Repr

namespace SeverityCap

/-- The name of a cap. -/
def name : SeverityCap → String
  | mute => "NONE"
  | level s => s.name

/-- The cap that a text names. -/
def parse? (text : String) : Option SeverityCap :=
  if Text.eqIgnoreAsciiCase (Text.trim text) "none" then some mute
  else (Severity.parse? text).map level

/-- A cap in a column; the word for muting is never padded. -/
def pad (col : Text.Column) : SeverityCap → String
  | mute => "NONE"
  | level s => col.pad s.name

/-- The written form. -/
def encode (c : SeverityCap) : Json := .string c.name

/-- Reads a cap from a JSON string. -/
def decode : Json.Decoder SeverityCap :=
  Json.Decode.stringVia "a string" fun text =>
    match parse? text with
    | some c => .ok c
    | none => .error (Severity.refusal text)

end SeverityCap

end Rulebook
