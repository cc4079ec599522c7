/-
# Summaries

Specification §4.6 (Summary Aggregator).

A `Summary` counts what one scan, or several merged ones, came to. Merging adds the
counters and the times up, keeps the earlier start, and of two descriptions of the
target the first one that is not empty, each field for itself.

A counter has 64 bits, and raising, lowering and adding start over beyond them. One scan
cannot get there, since it counts what it holds; merging can, since the same report may
be merged any number of times.
-/

import Rulebook.Severity
import Rulebook.Time.Timestamp
import Rulebook.Time.Duration

namespace Rulebook

/-- What a scan is run against. -/
structure ScanTarget where
  /-- The path of the scanned sources. -/
  resourcePath : String := ""
  /-- The kind of infrastructure description that the resources come from. -/
  iacType : String := ""
deriving DecidableEq, Repr

/-- The counters of one or more scans. -/
@[ext]
structure Summary where
  resourcePath : String
  iacType : String
  /-- The start of the scan. -/
  timestamp : Timestamp
  totalPolicies : UInt64
  violatedPolicies : UInt64
  low : UInt64
  medium : UInt64
  high : UInt64
  totalTime : Duration
deriving DecidableEq, Repr

namespace Summary

/-- The summary of a scan that has found nothing yet. -/
def start (target : ScanTarget) (timestamp : Timestamp) : Summary where
  resourcePath := target.resourcePath
  iacType := target.iacType
  timestamp := timestamp
  totalPolicies := 0
  violatedPolicies := 0
  low := 0
  medium := 0
  high := 0
  totalTime := .zero

/-- The summary with one more finding. -/
def record (s : Summary) : Severity → Summary
  | .low => { s with low := s.low + 1, violatedPolicies := s.violatedPolicies + 1 }
  | .medium => { s with medium := s.medium + 1, violatedPolicies := s.violatedPolicies + 1 }
  | .high => { s with high := s.high + 1, violatedPolicies := s.violatedPolicies + 1 }

/-- The first text that is not empty. -/
def firstText (a b : String) : String := if a = "" then b else a

/-- The summary of both scans. -/
def merge (a b : Summary) : Summary where
  resourcePath := firstText a.resourcePath b.resourcePath
  iacType := firstText a.iacType b.iacType
  timestamp := a.timestamp.earlier b.timestamp
  totalPolicies := a.totalPolicies + b.totalPolicies
  violatedPolicies := a.violatedPolicies + b.violatedPolicies
  low := a.low + b.low
  medium := a.medium + b.medium
  high := a.high + b.high
  totalTime := a.totalTime.add b.totalTime

/-- The fields of a written summary. -/
def fields : Json.Fields Summary :=
  Summary.mk
    <$> .field "resource_path" Json.Decode.string (some "")
    <*> .field "iac_type" Json.Decode.string (some "")
    <*> .field "timestamp" Timestamp.decode
    <*> .field "total_policies" Json.Decode.size
    <*> .field "violated_policies" Json.Decode.size
    <*> .field "low" Json.Decode.size
    <*> .field "medium" Json.Decode.size
    <*> .field "high" Json.Decode.size
    <*> .field "total_time" Duration.decode

/-- Reads a summary. -/
def decode : Json.Decoder Summary := Json.Decode.record "Summary" fields

/-- The written form. -/
def encode (s : Summary) : Json :=
  .object
    [ ("resource_path", .string s.resourcePath),
      ("iac_type", .string s.iacType),
      ("timestamp", s.timestamp.encode),
      ("total_policies", Json.nat s.totalPolicies.toNat),
      ("violated_policies", Json.nat s.violatedPolicies.toNat),
      ("low", Json.nat s.low.toNat),
      ("medium", Json.nat s.medium.toNat),
      ("high", Json.nat s.high.toNat),
      ("total_time", s.totalTime.encode) ]

end Summary

end Rulebook
