/-
# Configuration

Specification §10.3 (Configuration).

A `PolicyConfig` says where rules live and which of them take part in a run. Every list
may be empty and then leaves its dimension unconstrained. Severity and categories are
kept as they were written; `minimumSeverity`, `checkCategories` and `resolvePaths` are
the readings on which a run relies.

A configuration also comes from environment variables (`Config.ofEnvironment`): under a
profile every key is first looked up with the profile in front, and an empty value
counts as none.
-/

import Rulebook.FileTree
import Rulebook.Severity

namespace Rulebook

/-- A configuration that cannot be used. -/
inductive ConfigError where
  /-- The working directory, which a relative path needs, cannot be told. -/
  | io (error : FileError)
  | invalidSeverity (text : String)
  | invalidCategories (names : List String)
deriving DecidableEq, Repr

/-- The wording of a configuration error. -/
def ConfigError.message : ConfigError → String
  | io e => "IO error: " ++ e.message
  | invalidSeverity text => Severity.refusal text
  | invalidCategories names => "invalid categories: " ++ Text.quoteList names

/-- The wordings of a configuration error and of its cause. -/
def ConfigError.chain : ConfigError → List String
  | io e => [(io e).message, e.message]
  | e => [e.message]

/-- The entries of a comma-separated list, trimmed, without the blank ones. -/
def splitList (raw : String) : List String :=
  (((Text.splitAt ',' raw.toList).map Text.trimChars).filter (· ≠ [])).map String.ofList

/-- The query namespace under which rule modules live unless configured otherwise. -/
def defaultQueryBase : String := "data.iacguard"

/-- The categories that a rule may declare. -/
def acceptedCategories : List String :=
  [ "LOGGING AND MONITORING",
    "COMPLIANCE VALIDATION",
    "RESILIENCE",
    "SECURITY BEST PRACTICES",
    "INFRASTRUCTURE SECURITY",
    "IDENTITY AND ACCESS MANAGEMENT",
    "CONFIGURATION AND VULNERABILITY ANALYSIS",
    "DATA PROTECTION" ]

/-- A label in the form in which labels are compared: trimmed and in upper case. -/
def normalizeLabel (label : String) : String := Text.upper (Text.trim label)

/-- Where rules live and which of them take part in a run. -/
structure PolicyConfig where
  basePath : Path := ⟨"policies"⟩
  /-- The part of the base path to load; all of it when absent. -/
  repoPath : Option Path := none
  scanRules : List String := []
  skipRules : List String := []
  categories : List String := []
  policyTypes : List String := []
  /-- The minimum severity as it was written. -/
  severity : Option String := none
  queryBase : String := defaultQueryBase
deriving DecidableEq, Repr

namespace PolicyConfig

/-- The minimum severity; a blank text sets none. -/
def minimumSeverity (c : PolicyConfig) : Except ConfigError (Option Severity) :=
  match c.severity.map Text.trim with
  | none => .ok none
  | some text =>
    if text = "" then .ok none
    else
      match Severity.parse? text with
      | some s => .ok (some s)
      | none => .error (.invalidSeverity text)

/-- The configured categories, normalized, that no rule may declare. -/
def unknownCategories (c : PolicyConfig) : List String :=
  (c.categories.map normalizeLabel).filter fun name => !acceptedCategories.contains name

/-- Refuses categories that no rule may declare. -/
def checkCategories (c : PolicyConfig) : Except ConfigError Unit :=
  match c.unknownCategories with
  | [] => .ok ()
  | names => .error (.invalidCategories names)

/-- A path made absolute. The working directory is looked up for a relative path only. -/
def absolutePath (cwd : Except FileError Path) (p : Path) : Except ConfigError Path :=
  if p.isAbsolute then .ok p
  else
    match cwd with
    | .error e => .error (.io e)
    | .ok cwd => .ok (cwd.join p)

/-- The absolute base path, and the absolute directory from which rules are loaded: a
repository path that lies below the base path as it is, any other joined to the base. -/
def resolvePaths (cwd : Except FileError Path) (c : PolicyConfig) :
    Except ConfigError (Path × Path) :=
  match absolutePath cwd c.basePath with
  | .error e => .error e
  | .ok base =>
    match c.repoPath with
    | none => .ok (base, base)
    | some repo =>
      match absolutePath cwd repo with
      | .error e => .error e
      | .ok whole => .ok (base, if base.below whole then whole else base.join repo)

/-- Reads a path from a JSON string. -/
def decodePath : Json.Decoder Path := fun s =>
  (Json.Decode.stringAs "path string" s).map Path.ofString

/-- The fields of a written configuration; each may be missing. -/
def fields : Json.Fields PolicyConfig :=
  let strings := Json.Decode.list Json.Decode.string
  PolicyConfig.mk
    <$> .field "base_path" decodePath (some ⟨"policies"⟩)
    <*> .field "repo_path" (Json.Decode.optional decodePath) (some none)
    <*> .field "scan_rules" strings (some [])
    <*> .field "skip_rules" strings (some [])
    <*> .field "categories" strings (some [])
    <*> .field "policy_types" strings (some [])
    <*> .field "severity" (Json.Decode.optional Json.Decode.string) (some none)
    <*> .field "query_base" Json.Decode.string (some defaultQueryBase)

/-- Reads a configuration. -/
def decode : Json.Decoder PolicyConfig := Json.Decode.record "PolicyConfig" fields

/-- A list of texts. -/
def encodeStrings (items : List String) : Json := .array (items.map .string)

/-- The written form of a path that may be absent. -/
def encodePath? : Option Path → Option Json
  | none => some .null
  | some p => p.encode

/-- The written form. A configuration with a path that is not UTF-8 has none. -/
def encode (c : PolicyConfig) : Option Json :=
  c.basePath.encode.bind fun base => (encodePath? c.repoPath).map fun repo =>
    .object
      [ ("base_path", base),
        ("repo_path", repo),
        ("scan_rules", encodeStrings c.scanRules),
        ("skip_rules", encodeStrings c.skipRules),
        ("categories", encodeStrings c.categories),
        ("policy_types", encodeStrings c.policyTypes),
        ("severity", (c.severity.map Json.string).getD .null),
        ("query_base", .string c.queryBase) ]

end PolicyConfig

/-- Environment variables. -/
abbrev Environment := SortedMap String

namespace Environment

/-- The value of a variable, unless it is empty. -/
def nonempty? (env : Environment) (name : String) : Option String :=
  (env.get? name).filter (· ≠ "")

/-- The value of a key under a profile: the variable with the profile in front counts
before the one without. -/
def profiled? (env : Environment) (profile key : String) : Option String :=
  if profile = "" then env.nonempty? key
  else env.nonempty? (profile ++ "_" ++ key) <|> env.nonempty? key

/-- A comma-separated list under a profile. -/
def profiledList (env : Environment) (profile key : String) : List String :=
  ((env.profiled? profile key).map splitList).getD []

end Environment

/-- The policy configuration that the environment gives under a profile. -/
def PolicyConfig.ofEnvironment (env : Environment) (profile : String) : PolicyConfig where
  basePath := .ofString ((env.profiled? profile "IACGUARD_POLICY_BASE_PATH").getD "policies")
  repoPath := (env.profiled? profile "IACGUARD_POLICY_REPO_PATH").map Path.ofString
  scanRules := env.profiledList profile "IACGUARD_SCAN_RULES"
  skipRules := env.profiledList profile "IACGUARD_SKIP_RULES"
  categories := env.profiledList profile "IACGUARD_CATEGORIES"
  policyTypes := env.profiledList profile "IACGUARD_POLICY_TYPES"
  severity := env.profiled? profile "IACGUARD_SEVERITY"
  queryBase := (env.profiled? profile "IACGUARD_QUERY_BASE").getD defaultQueryBase

/-- A configuration with the profile it was read under. -/
structure Config where
  /-- The profile in upper case; empty for none. -/
  profile : String
  policy : PolicyConfig
deriving DecidableEq, Repr

namespace Config

/-- The configuration under a given profile. -/
def forProfile (env : Environment) (profile : String) : Config :=
  let profile := Text.upper profile
  { profile, policy := .ofEnvironment env profile }

/-- The configuration under the profile that the environment names. -/
def ofEnvironment (env : Environment) : Config :=
  forProfile env (Text.upper ((env.get? "IACGUARD_PROFILE").getD ""))

/-- The name of the profile for display. -/
def profileLabel (c : Config) : String := if c.profile = "" then "default" else c.profile

/-- The written form. -/
def encode (c : Config) : Option Json :=
  c.policy.encode.map fun policy => .object [("profile", .string c.profile), ("policy", policy)]

end Config

end Rulebook
