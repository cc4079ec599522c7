/-
# Rule sets

Specification §4.2 (Rule Repository Loader).

Loading goes through the metadata files of a policy tree one after the other. A rule that
the selection admits is rendered from its body file and registered under its reference
id; of two rules with one reference id the later one stays. A body file is read once,
however many rules are rendered from it: bodies are kept under their canonical paths.

`Loading.step` deals with one file, `Loading.run` with a list of them, and
`RuleSet.load` with a policy tree.
-/

import Rulebook.RuleSet.Outcome
import Rulebook.RuleSet.Scan
import Rulebook.Rule.Selection
import Rulebook.Rule.Loaded

namespace Rulebook

/-- Why a rule is left out before its body is looked at. -/
def Selection.screen (s : Selection) (r : Rule) : Option RejectReason :=
  if !s.allows r then some .notAllowed
  else if s.skips r then some .skipRule
  else if r.hasReservedName then some .reservedName
  else none

/-- The rule with the body that the contents of its body file give, unless they give none. -/
def Rule.withBody (r : Rule) (bodyPath : Path) (bytes : List UInt8) :
    Except LoadStatus LoadedRule :=
  match renderBody bytes r.templateArgs with
  | .error e => .error (.failed (.template e))
  | .ok body =>
    if Text.isBlankText body then .error (.rejected .emptyBody)
    else .ok { rule := r, body, bodyPath }

/-- The result of loading a policy tree. -/
structure RuleSet where
  /-- The active rules under their reference ids. -/
  rules : SortedMap LoadedRule := .empty
  stats : LoadStats := {}
  /-- The outcome of every metadata file, in order. -/
  results : List LoadResult := []

/-- A load under way. -/
structure Loading where
  set : RuleSet := {}
  /-- The body files read so far, under the keys of their canonical paths. -/
  bodies : SortedMap (List UInt8) := .empty

namespace Loading

/-- One more rule that passed the selection. -/
def countDescriptor (l : Loading) : Loading :=
  { l with set.stats.descriptors := l.set.stats.descriptors + 1 }

/-- The contents of a body file; the file is read unless it has been read before. -/
def fetch (tree : FileTree) (l : Loading) (bodyPath : Path) :
    Except FileError (List UInt8 × Loading) :=
  match l.bodies.get? bodyPath.text.key with
  | some bytes => .ok (bytes, l)
  | none =>
    match tree.read bodyPath with
    | .error e => .error e
    | .ok bytes => .ok (bytes, { l with bodies := l.bodies.insert bodyPath.text.key bytes })

/-- One more active rule, in the place of an earlier one with its reference id. -/
def register (l : Loading) (r : LoadedRule) : Loading :=
  { l with
    set.rules := l.set.rules.insert r.rule.referenceId r
    set.stats.registered := l.set.stats.registered + 1 }

/-- Deals with the rule of a metadata file, and gives the file's outcome. -/
def process (tree : FileTree) (s : Selection) (l : Loading) (f : ScannedFile) :
    LoadStatus × Loading :=
  match f.parsed with
  | .error e => (.failed (.metadata e), l)
  | .ok rule =>
    match s.screen rule with
    | some reason => (.rejected reason, l)
    | none =>
      let l := l.countDescriptor
      let named := f.directory.join ⟨rule.file⟩
      match tree.canonicalize named with
      | .error e => (.failed (.body named e), l)
      | .ok bodyPath =>
        match l.fetch tree bodyPath with
        | .error e => (.failed (.body bodyPath e), l)
        | .ok (bytes, l) =>
          match rule.withNameArg.withBody bodyPath bytes with
          | .error status => (status, l)
          | .ok loaded => (.registered rule.referenceId, l.register loaded)

/-- Deals with a metadata file and records its outcome. -/
def step (tree : FileTree) (s : Selection) (l : Loading) (f : ScannedFile) : Loading :=
  let (status, l) := l.process tree s f
  { l with
    set.stats.metadataFiles := l.set.stats.metadataFiles + 1
    set.results := l.set.results ++ [⟨f.path, status⟩] }

/-- Deals with metadata files one after the other. -/
def run (tree : FileTree) (s : Selection) (files : List ScannedFile) : Loading :=
  files.foldl (step tree s) {}

/-- The rule set at the end of a load. -/
def finish (l : Loading) : RuleSet :=
  { l.set with
    stats.bodyFiles := l.bodies.size
    stats.ruleCount := l.set.rules.size }

end Loading

/-- The rules that a selection admits in and below a path. -/
def RuleSet.load (tree : FileTree) (s : Selection) (root : Path) : Except LoadError RuleSet :=
  match tree.walk root with
  | .error e => .error (.walk root e)
  | .ok [] => .error (.noDirectories root)
  | .ok ds => .ok (Loading.run tree s (tree.scan ds)).finish

end Rulebook
