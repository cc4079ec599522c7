/-
# Outcomes of loading

Specification §4.2 (Rule Repository Loader).

Every metadata file of a policy tree has an outcome: its rule is registered, or it is
left out on purpose (`RejectReason`), or something about it cannot be processed
(`LoadFailure`). Only a tree that cannot be walked, or that has no directories, ends a
load (`LoadError`).
-/

import Rulebook.FileTree
import Rulebook.Rule
import Rulebook.Template.Render

namespace Rulebook

/-- Why a rule was left out on purpose. -/
inductive RejectReason where
  | notAllowed
  | skipRule
  | reservedName
  | emptyBody
deriving DecidableEq, Repr

namespace RejectReason

/-- The word for a reason in written results. -/
def word : RejectReason → String
  | notAllowed => "not_allowed"
  | skipRule => "skip_rule"
  | reservedName => "reserved_name"
  | emptyBody => "empty_body"

/-- The wording of a reason. -/
def message : RejectReason → String
  | notAllowed => "not selected by filters"
  | skipRule => "excluded by skip rule"
  | reservedName => "rule name must not contain a dot"
  | emptyBody => "rendered rule body is empty"

end RejectReason

/-- What about a metadata file cannot be processed. -/
inductive LoadFailure where
  | metadata (error : Json.DecodeError)
  | body (path : Path) (error : FileError)
  | template (error : RenderError)

/-- The wording of a failure. -/
def LoadFailure.message : LoadFailure → String
  | metadata e => e.message
  | body path e => "failed to read " ++ path.text.display ++ ": " ++ e.message
  | template e => e.message

/-- The outcome of a metadata file. -/
inductive LoadStatus where
  | registered (referenceId : String)
  | rejected (reason : RejectReason)
  | failed (cause : LoadFailure)

/-- The written form of an outcome. -/
def LoadStatus.encode : LoadStatus → List (String × Json)
  | registered id => [("status", .string "registered"), ("reference_id", .string id)]
  | rejected reason => [("status", .string "rejected"), ("reason", .string reason.word)]
  | failed cause => [("status", .string "failed"), ("error", .string cause.message)]

/-- A metadata file with its outcome. -/
@[ext]
structure LoadResult where
  path : Path
  status : LoadStatus

/-- The written form. The outcome of a file whose path is not UTF-8 has none. -/
def LoadResult.encode (r : LoadResult) : Option Json :=
  r.path.encode.map fun path => .object (("path", path) :: r.status.encode)

/-- What a load has counted. -/
@[ext]
structure LoadStats where
  /-- Metadata files found. -/
  metadataFiles : Nat := 0
  /-- Rules that passed the selection and the check of names. -/
  descriptors : Nat := 0
  /-- Different body files read. -/
  bodyFiles : Nat := 0
  /-- Registrations, those under a reference id that was taken included. -/
  registered : Nat := 0
  /-- Active rules. -/
  ruleCount : Nat := 0
deriving DecidableEq, Repr

/-- The written form. -/
def LoadStats.encode (s : LoadStats) : Json :=
  .object
    [ ("metadata_files", .nat s.metadataFiles),
      ("descriptors", .nat s.descriptors),
      ("body_files", .nat s.bodyFiles),
      ("registered", .nat s.registered),
      ("rule_count", .nat s.ruleCount) ]

/-- Why a policy tree cannot be loaded. -/
inductive LoadError where
  | noDirectories (path : Path)
  | walk (path : Path) (error : FileError)
deriving DecidableEq, Repr

namespace LoadError

/-- The wording of a file error on a walk. -/
def walkMessage (path : Path) (e : FileError) : String :=
  "IO error for operation on " ++ path.text.display ++ ": " ++ e.message

/-- The wording of a load error. -/
def message : LoadError → String
  | noDirectories path => "no directories found for path " ++ path.text.display
  | walk path e =>
    "failed to walk policy path " ++ path.text.display ++ ": " ++ walkMessage path e

/-- The wordings of a load error and of its causes. -/
def chain : LoadError → List String
  | noDirectories path => [(noDirectories path).message]
  | walk path e => [(walk path e).message, walkMessage path e, e.message]

end LoadError

end Rulebook
