/-
# Reports

Specification §4.6 (Summary Aggregator) and §6 (External Interfaces).

A `Report` is what an evaluation came to: the findings that count, those that a
directive suppresses, those on resources that mute theirs, the rules that passed, and
the summary. Merging appends every list and merges the summaries.
-/

import Rulebook.Report.Violation
import Rulebook.Report.Summary

namespace Rulebook

/-- What an evaluation came to. -/
@[ext]
structure Report where
  violations : List Violation
  skipped : List Violation
  /-- Findings on resources that mute theirs; they are never counted. -/
  muted : List Violation
  passed : List PassedRule
  summary : Summary

namespace Report

/-- The report of an evaluation that has visited no rule yet. -/
def start (summary : Summary) : Report where
  violations := []
  skipped := []
  muted := []
  passed := []
  summary := summary

/-- Both reports, the first one in front. -/
def merge (a b : Report) : Report where
  violations := a.violations ++ b.violations
  skipped := a.skipped ++ b.skipped
  muted := a.muted ++ b.muted
  passed := a.passed ++ b.passed
  summary := a.summary.merge b.summary

/-- The fields of a written report. -/
def fields : Json.Fields Report :=
  Report.mk
    <$> .field "violations" (Json.Decode.list Violation.decode)
    <*> .field "skipped_violations" (Json.Decode.list Violation.decode)
    <*> .field "muted_violations" (Json.Decode.list Violation.decode)
    <*> .field "passed_rules" (Json.Decode.list PassedRule.decode)
    <*> .field "summary" Summary.decode

/-- Reads a report. -/
def decode : Json.Decoder Report := Json.Decode.record "EngineOutput" fields

/-- The written form. -/
def encode (r : Report) : Json :=
  .object
    [ ("violations", .array (r.violations.map Violation.encode)),
      ("skipped_violations", .array (r.skipped.map Violation.encode)),
      ("muted_violations", .array (r.muted.map Violation.encode)),
      ("passed_rules", .array (r.passed.map PassedRule.encode)),
      ("summary", r.summary.encode) ]

end Report

end Rulebook
