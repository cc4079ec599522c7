import Rulebook.Main
import Rulebook.Engine
import Rulebook.Proofs.Text.ByteOrder
import Rulebook.Proofs.SortedMap
import Rulebook.Proofs.Path
import Rulebook.Proofs.FileTree.Walk
import Rulebook.Proofs.FileTree.Descend
import Rulebook.Proofs.FileTree.Relisted
import Rulebook.Proofs.Rule.Compiled
import Rulebook.Proofs.Rule.Loaded
import Rulebook.Proofs.Rule.Selection
import Rulebook.Proofs.RuleSet.Outcome
import Rulebook.Proofs.RuleSet.Uncached
import Rulebook.Proofs.RuleSet.Counts
import Rulebook.Proofs.RuleSet.Narrowed
import Rulebook.Proofs.RuleSet.Order
import Rulebook.Proofs.RuleSet.LoadOrder
import Rulebook.Proofs.Evaluation.Match
import Rulebook.Proofs.Evaluation.ScanReport
import Rulebook.Proofs.Evaluation.Counts
import Rulebook.Proofs.Evaluation.Origin
import Rulebook.Proofs.Engine.Setup
import Rulebook.Proofs.Engine.Provenance
import Rulebook.Proofs.Engine.PolicyPath
import Rulebook.Proofs.Engine.Listed
import Rulebook.Proofs.Engine.RuleNames
import Rulebook.Proofs.FileTree.Canonical
import Rulebook.Proofs.RuleSet.Respelled
import Rulebook.Proofs.RuleSet.LinkedRoot
import Rulebook.Proofs.Evaluation.Additive
import Rulebook.Proofs.Evaluation.Narrowing
import Rulebook.Proofs.Resource.Place
import Rulebook.Proofs.Evaluation.Overrides
import Rulebook.Proofs.Json.Reads
import Rulebook.Proofs.Resource.Written
import Rulebook.Proofs.Json.Same
import Rulebook.Proofs.Resource.Added
import Rulebook.Proofs.Resource.Lookup
import Rulebook.Proofs.Rule.Visit
import Rulebook.Proofs.Rule.Admission
import Rulebook.Proofs.Text.AsciiCase
import Rulebook.Proofs.Text.Upper
import Rulebook.Proofs.Evaluation.Directive
import Rulebook.Proofs.Engine.ResolvedPaths
import Rulebook.Proofs.Report.Merged
import Rulebook.Proofs.Config.Sources
import Rulebook.Proofs.Text.Split
import Rulebook.Proofs.Text.Trimmed
import Rulebook.Proofs.Config.CommaList
import Rulebook.Proofs.Engine.Records
import Rulebook.Proofs.Engine.Categories
import Rulebook.Proofs.Text.Utf8
import Rulebook.Proofs.Template.Scan
import Rulebook.Proofs.Template.Name
import Rulebook.Proofs.Template.Substitution
import Rulebook.Proofs.Text.SameWord
import Rulebook.Proofs.Json.Texts
import Rulebook.Proofs.Severity
