/-
# Reports merged from many

Specification §4.6 (Summary Aggregator).

Reports of several scans are merged two at a time, and the merges can be grouped in any way: a
`Merging` is such a grouping, a tree with the reports at its leaves. What comes out depends
only on the reports from the left to the right (`Merging.mergedFrom`). Each list is appended,
each number added up, the start is the earliest one, and each text that describes the target
is the first one that is not empty.

Appending and taking the first text look at the order of the reports; adding and taking the
earliest do not. So another order only orders the lists differently and may describe another
target (`MergedFrom.perm`).

A counter has 64 bits and starts over beyond them, which does no harm to these laws: sums are
taken modulo its limit on the way as well as at the end (`Counter.wrap_add`). A length of time
does not start over; no report comes of a merge that takes one beyond its limit. A merging in
which neither happens gives the sums themselves (`Merging.counters_eq`). Since sums only grow, no
merge on the way goes beyond a limit that the sum of all keeps (`Merging.fits_iff`). Hence
whether a merging overflows depends neither on how it is grouped nor on its order.
-/

import Mathlib
import Rulebook.Report

namespace Rulebook

/-! ### The order of time -/

namespace Timestamp

/-- Points of time compare as pairs of seconds and nanoseconds. -/
def key (t : Timestamp) : Lex (Int × Nat) := toLex (t.seconds, t.nanos)

/-- A timestamp is determined by its key. -/
theorem key_injective : Function.Injective key := by
  intro a b h
  obtain ⟨hseconds, hnanos⟩ := Prod.mk.inj (toLex_inj.1 h)
  exact Timestamp.ext hseconds hnanos

instance : LinearOrder Timestamp := LinearOrder.lift' key key_injective

/-- Timestamps are compared by their keys. -/
theorem le_iff {a b : Timestamp} : a.le b = true ↔ a ≤ b := by
  show _ ↔ a.key ≤ b.key
  rw [key, key, Prod.Lex.toLex_le_toLex, le]
  simp

/-- The earlier timestamp is the smaller one. -/
theorem earlier_eq_min (a b : Timestamp) : a.earlier b = min a b := by
  simp only [earlier, min_def, le_iff]

end Timestamp

/-! ### The first text that is not empty -/

namespace Summary

/-- The first text of a list that is not empty; empty if there is none. -/
def firstOf (texts : List String) : String := (texts.find? (· ≠ "")).getD ""

/-- The first of a single text is this text. -/
theorem firstOf_singleton (text : String) : firstOf [text] = text := by
  by_cases h : text = ""
  · rw [h]
    rfl
  · rw [firstOf, List.find?_cons_of_pos (by simpa using h)]
    rfl

/-- The first text of two lists is the first of their first texts. -/
theorem firstOf_append (xs ys : List String) :
    firstOf (xs ++ ys) = firstText (firstOf xs) (firstOf ys) := by
  rw [firstOf, firstOf, firstOf, List.find?_append, firstText]
  rcases hx : xs.find? (· ≠ "") with _ | x
  · exact (if_pos rfl).symm
  · have hne : x ≠ "" := by simpa using List.find?_some hx
    exact (if_neg hne).symm

/-! ### What is added up -/

/-- A number of a summary that merging adds up. -/
inductive Counter where
  | totalPolicies
  | violatedPolicies
  | low
  | medium
  | high
  /-- The nanoseconds of the total time. -/
  | nanos
deriving DecidableEq, Repr

namespace Counter

/-- The number in a summary. -/
def of (s : Summary) : Counter → Nat
  | totalPolicies => s.totalPolicies.toNat
  | violatedPolicies => s.violatedPolicies.toNat
  | low => s.low.toNat
  | medium => s.medium.toNat
  | high => s.high.toNat
  | nanos => s.totalTime.nanos

/-- Beyond what a number must not go: a count has 64 bits, as the full seconds of a length of
time have. -/
def limit : Counter → Nat
  | nanos => 2 ^ 64 * Duration.perSecond
  | _ => 2 ^ 64

/-- What becomes of a sum: a count starts over at its limit. -/
def wrap (n : Nat) : Counter → Nat
  | nanos => n
  | c => n % c.limit

/-- A sum below the limit is kept. -/
theorem wrap_of_lt {c : Counter} {n : Nat} (h : n < c.limit) : c.wrap n = n := by
  cases c with
  | nanos => rfl
  | _ => exact Nat.mod_eq_of_lt h

/-- Starting over on the way makes no difference at the end. -/
theorem wrap_add (c : Counter) (m n : Nat) : c.wrap (c.wrap m + c.wrap n) = c.wrap (m + n) := by
  cases c with
  | nanos => rfl
  | _ => exact (Nat.add_mod ..).symm

/-- What is in a summary has started over already. -/
theorem wrap_of (c : Counter) (s : Summary) : c.wrap (c.of s) = c.of s := by
  cases c with
  | nanos => rfl
  | _ => exact Nat.mod_eq_of_lt (UInt64.toNat_lt _)

/-- Merging adds the numbers up. -/
theorem of_merge (c : Counter) (s s' : Summary) :
    c.of (s.merge s') = c.wrap (c.of s + c.of s') := by
  cases c with
  | nanos => rfl
  | _ => exact UInt64.toNat_add ..

end Counter

/-- A summary is determined by its target, its start and its numbers. -/
theorem ext_of {s s' : Summary} (hpath : s.resourcePath = s'.resourcePath)
    (htype : s.iacType = s'.iacType) (htimestamp : s.timestamp = s'.timestamp)
    (hcounters : ∀ c : Counter, c.of s = c.of s') : s = s' :=
  Summary.ext hpath htype htimestamp (UInt64.toNat_inj.1 (hcounters .totalPolicies))
    (UInt64.toNat_inj.1 (hcounters .violatedPolicies)) (UInt64.toNat_inj.1 (hcounters .low))
    (UInt64.toNat_inj.1 (hcounters .medium)) (UInt64.toNat_inj.1 (hcounters .high))
    (Duration.ext (hcounters .nanos))

end Summary

open Summary (Counter)

namespace Report

/-! ### What a report is merged from -/

/-- A report is what the reports of a list come to together. -/
structure MergedFrom (r : Report) (parts : List Report) : Prop where
  violations : r.violations = parts.flatMap Report.violations
  skipped : r.skipped = parts.flatMap Report.skipped
  muted : r.muted = parts.flatMap Report.muted
  passed : r.passed = parts.flatMap Report.passed
  counters : ∀ c : Counter, c.of r.summary = c.wrap (parts.map fun p => c.of p.summary).sum
  /-- Some part starts when the whole does. -/
  started : ∃ p ∈ parts, p.summary.timestamp = r.summary.timestamp
  /-- No part starts before the whole. -/
  earliest : ∀ p ∈ parts, r.summary.timestamp.le p.summary.timestamp = true
  resourcePath : r.summary.resourcePath = Summary.firstOf (parts.map (·.summary.resourcePath))
  iacType : r.summary.iacType = Summary.firstOf (parts.map (·.summary.iacType))

/-- A report is merged from itself. -/
theorem mergedFrom_singleton (r : Report) : r.MergedFrom [r] where
  violations := (List.flatMap_singleton ..).symm
  skipped := (List.flatMap_singleton ..).symm
  muted := (List.flatMap_singleton ..).symm
  passed := (List.flatMap_singleton ..).symm
  counters c := by rw [List.map_singleton, List.sum_singleton, c.wrap_of]
  started := ⟨r, List.mem_singleton_self r, rfl⟩
  earliest := by
    intro p hp
    rw [List.mem_singleton.1 hp, Timestamp.le_iff]
  resourcePath := (Summary.firstOf_singleton _).symm
  iacType := (Summary.firstOf_singleton _).symm

/-- **Merging two reports appends what they are merged from.** -/
theorem MergedFrom.merge {a b : Report} {as bs : List Report} (ha : a.MergedFrom as)
    (hb : b.MergedFrom bs) : (a.merge b).MergedFrom (as ++ bs) where
  violations := by rw [List.flatMap_append, ← ha.violations, ← hb.violations]; rfl
  skipped := by rw [List.flatMap_append, ← ha.skipped, ← hb.skipped]; rfl
  muted := by rw [List.flatMap_append, ← ha.muted, ← hb.muted]; rfl
  passed := by rw [List.flatMap_append, ← ha.passed, ← hb.passed]; rfl
  counters c := by
    rw [List.map_append, List.sum_append, ← c.wrap_add, ← ha.counters, ← hb.counters]
    exact c.of_merge ..
  started := by
    show ∃ p ∈ as ++ bs, p.summary.timestamp = a.summary.timestamp.earlier b.summary.timestamp
    obtain ⟨p, hp, hpa⟩ := ha.started
    obtain ⟨q, hq, hqb⟩ := hb.started
    rw [Timestamp.earlier_eq_min]
    rcases min_choice a.summary.timestamp b.summary.timestamp with hmin | hmin
    · exact ⟨p, List.mem_append_left _ hp, hpa.trans hmin.symm⟩
    · exact ⟨q, List.mem_append_right _ hq, hqb.trans hmin.symm⟩
  earliest := by
    show ∀ p ∈ as ++ bs, (a.summary.timestamp.earlier b.summary.timestamp).le _ = true
    simp only [Timestamp.earlier_eq_min, Timestamp.le_iff, List.mem_append]
    rintro p (hp | hp)
    · exact (min_le_left ..).trans (Timestamp.le_iff.1 (ha.earliest p hp))
    · exact (min_le_right ..).trans (Timestamp.le_iff.1 (hb.earliest p hp))
  resourcePath := by
    rw [List.map_append, Summary.firstOf_append, ← ha.resourcePath, ← hb.resourcePath]
    rfl
  iacType := by
    rw [List.map_append, Summary.firstOf_append, ← ha.iacType, ← hb.iacType]
    rfl

/-- Two reports hold the same findings and passed rules, count the same and start at the same
time. -/
structure SameUpToOrder (r r' : Report) : Prop where
  violations : r.violations.Perm r'.violations
  skipped : r.skipped.Perm r'.skipped
  muted : r.muted.Perm r'.muted
  passed : r.passed.Perm r'.passed
  counters : ∀ c : Counter, c.of r.summary = c.of r'.summary
  timestamp : r.summary.timestamp = r'.summary.timestamp

/-- No part of the one starts before the other if the parts are the same. -/
theorem MergedFrom.timestamp_le {r r' : Report} {parts parts' : List Report}
    (h : r.MergedFrom parts) (h' : r'.MergedFrom parts') (hsub : parts' ⊆ parts) :
    r.summary.timestamp ≤ r'.summary.timestamp := by
  obtain ⟨p, hp, hstart⟩ := h'.started
  rw [← hstart, ← Timestamp.le_iff]
  exact h.earliest p (hsub hp)

/-- **The order of the reports only orders the lists**, and chooses among the descriptions of
the target. -/
theorem MergedFrom.perm {r r' : Report} {parts parts' : List Report} (h : r.MergedFrom parts)
    (h' : r'.MergedFrom parts') (hperm : parts.Perm parts') : r.SameUpToOrder r' where
  violations := by rw [h.violations, h'.violations]; exact hperm.flatMap_right _
  skipped := by rw [h.skipped, h'.skipped]; exact hperm.flatMap_right _
  muted := by rw [h.muted, h'.muted]; exact hperm.flatMap_right _
  passed := by rw [h.passed, h'.passed]; exact hperm.flatMap_right _
  counters c := by rw [h.counters, h'.counters, (hperm.map _).sum_nat]
  timestamp := le_antisymm (h.timestamp_le h' hperm.symm.subset) (h'.timestamp_le h hperm.subset)

/-- **A report is determined by what it is merged from.** -/
theorem MergedFrom.unique {r r' : Report} {parts : List Report} (h : r.MergedFrom parts)
    (h' : r'.MergedFrom parts) : r = r' := by
  have hsame := h.perm h' (.refl parts)
  refine Report.ext ?_ ?_ ?_ ?_ (Summary.ext_of ?_ ?_ hsame.timestamp hsame.counters)
  · rw [h.violations, h'.violations]
  · rw [h.skipped, h'.skipped]
  · rw [h.muted, h'.muted]
  · rw [h.passed, h'.passed]
  · rw [h.resourcePath, h'.resourcePath]
  · rw [h.iacType, h'.iacType]

/-- **Merging is associative.** -/
theorem merge_assoc (a b c : Report) : (a.merge b).merge c = a.merge (b.merge c) := by
  have ha := mergedFrom_singleton a
  have hb := mergedFrom_singleton b
  have hc := mergedFrom_singleton c
  exact ((ha.merge hb).merge hc).unique (ha.merge (hb.merge hc))

end Report

/-! ### Groupings of merges -/

/-- A grouping of the merges that a report is assembled by. -/
inductive Merging where
  | report (r : Report)
  | merge (first second : Merging)

namespace Merging

/-- The reports that are merged, in the order in which they are. -/
def parts : Merging → List Report
  | report r => [r]
  | merge a b => a.parts ++ b.parts

/-- The report that is assembled. -/
def result : Merging → Report
  | report r => r
  | merge a b => a.result.merge b.result

/-- What all reports have of a number. -/
def total (t : Merging) (c : Counter) : Nat := (t.parts.map fun p => c.of p.summary).sum

/-- No merge on the way takes a number beyond its limit. -/
def Fits : Merging → Prop
  | report r => ∀ c : Counter, c.of r.summary < c.limit
  | merge a b => a.Fits ∧ b.Fits ∧
      ∀ c : Counter, c.of a.result.summary + c.of b.result.summary < c.limit

/-- **What is assembled depends on the reports alone**, not on how their merges are grouped. -/
theorem mergedFrom (t : Merging) : t.result.MergedFrom t.parts := by
  induction t with
  | report r => exact Report.mergedFrom_singleton r
  | merge a b ha hb => exact ha.merge hb

/-- What two groups of reports have of a number together. -/
theorem total_merge (a b : Merging) (c : Counter) :
    (a.merge b).total c = a.total c + b.total c := by
  rw [total, parts, List.map_append, List.sum_append]
  rfl

/-- **Nothing overflows on the way if the sum of all does not.** -/
theorem fits_iff (t : Merging) : t.Fits ↔ ∀ c : Counter, t.total c < c.limit := by
  induction t with
  | report r =>
    refine forall_congr' fun c => ?_
    rw [total, parts, List.map_singleton, List.sum_singleton]
  | merge a b ha hb =>
    -- What is added last are the sums of both groups, which have not started over.
    have hsum (t : Merging) (c : Counter) (h : t.total c < c.limit) :
        c.of t.result.summary = t.total c :=
      (t.mergedFrom.counters c).trans (Counter.wrap_of_lt h)
    constructor
    · rintro ⟨hfirst, hsecond, hfits⟩ c
      rw [total_merge, ← hsum a c (ha.1 hfirst c), ← hsum b c (hb.1 hsecond c)]
      exact hfits c
    · intro h
      simp only [total_merge] at h
      have hfirst (c : Counter) : a.total c < c.limit := by have := h c; omega
      have hsecond (c : Counter) : b.total c < c.limit := by have := h c; omega
      refine ⟨ha.2 hfirst, hb.2 hsecond, fun c => ?_⟩
      rw [hsum a c (hfirst c), hsum b c (hsecond c)]
      exact h c

/-- **Without an overflow the numbers are the sums.** -/
theorem counters_eq {t : Merging} (h : t.Fits) (c : Counter) :
    c.of t.result.summary = t.total c :=
  (t.mergedFrom.counters c).trans (Counter.wrap_of_lt (t.fits_iff.1 h c))

/-- Whether a merging overflows depends on its reports alone. -/
theorem fits_congr {t t' : Merging} (h : t.parts.Perm t'.parts) : t.Fits ↔ t'.Fits := by
  simp only [fits_iff, total, (h.map _).sum_nat]

/-- **Reports merge the same however their merges are grouped, and whatever their order is they
come to the same findings.** Merging is associative. What is assembled from some reports has
their lists appended, their numbers added up, the earliest start, and of each description of
the target the first that is not empty; so two groupings of the same merges assemble the same
report. In another order, the numbers and the start are the same and each list is a permutation.
A merging overflows in every grouping and every order of its reports or in none, and in none the
numbers are the sums themselves. -/
theorem grouping_and_order :
    (∀ a b c : Report, (a.merge b).merge c = a.merge (b.merge c)) ∧
    (∀ t : Merging, t.result.MergedFrom t.parts ∧
      (t.Fits → ∀ c : Counter, c.of t.result.summary = (t.parts.map fun p => c.of p.summary).sum)) ∧
    (∀ t t' : Merging, t.parts = t'.parts → t.result = t'.result) ∧
    (∀ t t' : Merging, t.parts.Perm t'.parts →
      t.result.SameUpToOrder t'.result ∧ (t.Fits ↔ t'.Fits)) := by
  refine ⟨Report.merge_assoc, fun t => ⟨t.mergedFrom, counters_eq⟩, fun t t' h => ?_,
    fun t t' h => ⟨t.mergedFrom.perm t'.mergedFrom h, fits_congr h⟩⟩
  have ht := t.mergedFrom
  rw [h] at ht
  exact ht.unique t'.mergedFrom

/-- A merging of one scan that a rule passed. -/
def ofScan (target : ScanTarget) (second : Int) (rule : String) : Merging :=
  .report
    { Report.start { Summary.start target ⟨second, 0⟩ with totalPolicies := 1 } with
      passed := [⟨rule, rule, rule, "", .low, ""⟩] }

/-- A scan without a target. -/
def anonymous : Merging := ofScan {} 30 "R1"

/-- A scan with a target. -/
def infrastructure : Merging := ofScan ⟨"infra/", "terraform"⟩ 20 "R2"

/-- A scan of another target, before the others. -/
def charts : Merging := ofScan ⟨"charts/", "kubernetes"⟩ 10 "R3"

/-- The hypotheses of `grouping_and_order` are satisfiable: three scans, grouped in two ways,
come to one report; in another order they come to the same numbers and the same start, and to
another target. -/
theorem grouping_and_order_three_scans :
    let left := ((anonymous.merge infrastructure).merge charts)
    let right := anonymous.merge (infrastructure.merge charts)
    let rotated := charts.merge (anonymous.merge infrastructure)
    (left.parts = right.parts ∧ left.result = right.result) ∧
      (left.parts.Perm rotated.parts ∧ left.result.SameUpToOrder rotated.result ∧
        (left.Fits ↔ rotated.Fits)) ∧
      (left.Fits ∧ Counter.totalPolicies.of left.result.summary = 3) ∧
      left.result.summary.resourcePath = "infra/" ∧
      rotated.result.summary.resourcePath = "charts/" ∧
      left.result.summary.timestamp = ⟨10, 0⟩ := by
  obtain ⟨-, hmerged, hgroup, horder⟩ := grouping_and_order
  have hparts : ((anonymous.merge infrastructure).merge charts).parts =
      (anonymous.merge (infrastructure.merge charts)).parts :=
    List.append_assoc ..
  have hperm : ((anonymous.merge infrastructure).merge charts).parts.Perm
      (charts.merge (anonymous.merge infrastructure)).parts :=
    List.perm_append_comm
  have hfits : ((anonymous.merge infrastructure).merge charts).Fits := by
    rw [fits_iff]
    intro c
    cases c <;> decide
  exact ⟨⟨hparts, hgroup _ _ hparts⟩, ⟨hperm, horder _ _ hperm⟩,
    ⟨hfits, ((hmerged _).2 hfits .totalPolicies).trans (by decide)⟩, by decide, by decide,
    by decide⟩

end Merging

end Rulebook
