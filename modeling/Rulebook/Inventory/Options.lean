/-
# Options of the inventory

Specification §10.4 (Tooling).

The command line holds options in any order, each at most once. An option's value follows
as the next argument, which must not look like an option, or behind an equals sign, where
it may be any text. An option that is given counts before the environment, even when its
value is empty. Arguments are texts: one that is not UTF-8 has no place here.
-/

import Rulebook.Config

namespace Rulebook
namespace Inventory

/-- An option that has a value. -/
inductive Setting where
  | profile
  | basePath
  | repoPath
  | scanRules
  | skipRules
  | categories
  | policyTypes
  | severity
deriving DecidableEq, Repr

/-- An option without a value. -/
inductive Switch where
  | json
  | verbose
deriving DecidableEq, Repr

/-- The options that are given. -/
structure Options where
  settings : List (Setting × String) := []
  switches : List Switch := []
deriving DecidableEq, Repr

namespace Options

/-- The value that a setting is given. -/
def value? (o : Options) (s : Setting) : Option String := o.settings.lookup s

/-- A switch is on. -/
def has (o : Options) (s : Switch) : Bool := o.switches.contains s

/-- The options with one more setting, unless it is given already. -/
def set? (o : Options) (s : Setting) (value : String) : Option Options :=
  if (o.value? s).isSome then none else some { o with settings := (s, value) :: o.settings }

/-- The options with one more switch, unless it is on already. -/
def turnOn? (o : Options) (s : Switch) : Option Options :=
  if o.has s then none else some { o with switches := s :: o.switches }

end Options

/-- The names of the settings. -/
def settingNames : List (String × Setting) :=
  [ ("profile", .profile),
    ("base-path", .basePath),
    ("repo-path", .repoPath),
    ("scan-rules", .scanRules),
    ("skip-rules", .skipRules),
    ("categories", .categories),
    ("policy-types", .policyTypes),
    ("severity", .severity) ]

/-- The names of the switches. -/
def switchNames : List (String × Switch) := [("json", .json), ("verbose", .verbose)]

/-- What an argument is by itself. -/
inductive Argument where
  /-- A setting with the value behind its equals sign. -/
  | setting (setting : Setting) (value : Option String)
  | switch (switch : Switch)
  | help
  | version
  /-- Two hyphens, behind which no options follow. -/
  | endOfOptions
  | unknown
deriving DecidableEq, Repr

namespace Argument

/-- An option by its name, with the text behind its equals sign. -/
def named (name : String) (value : Option String) : Argument :=
  match settingNames.lookup name, switchNames.lookup name, value with
  | some s, _, v => .setting s v
  | none, some s, none => .switch s
  | none, none, none =>
    if name = "help" then .help else if name = "version" then .version else .unknown
  | none, _, some _ => .unknown

/-- Reads an argument. -/
def read (text : String) : Argument :=
  match text.toList with
  | ['-', '-'] => .endOfOptions
  | '-' :: '-' :: rest =>
    let name := rest.takeWhile (· != '=')
    let value := match rest.dropWhile (· != '=') with
      | [] => none
      | _ :: value => some (String.ofList value)
    named (String.ofList name) value
  | '-' :: 'h' :: _ => .help
  | '-' :: 'V' :: _ => .version
  | _ => .unknown

end Argument

/-- An argument can be the value of the setting in front of it. -/
def isValue (text : String) : Bool := text.toList.head? != some '-' || text == "-"

/-- What a command line asks for. -/
inductive Command where
  | list (options : Options)
  | help
  | version
deriving DecidableEq, Repr

/-- Reads arguments after some options; none if they are malformed. -/
def Command.readAfter (o : Options) : List String → Option Command
  | [] => some (.list o)
  | text :: rest =>
    match Argument.read text with
    | .help => some .help
    | .version => some .version
    | .endOfOptions => if rest.isEmpty then some (.list o) else none
    | .unknown => none
    | .switch s => (o.turnOn? s).bind fun o => Command.readAfter o rest
    | .setting s (some value) => (o.set? s value).bind fun o => Command.readAfter o rest
    | .setting s none =>
      match rest with
      | [] => none
      | value :: rest =>
        if isValue value then (o.set? s value).bind fun o => Command.readAfter o rest else none

/-- Reads a command line; none if it is malformed. -/
def Command.read (arguments : List String) : Option Command := Command.readAfter {} arguments

/-- The profile under which the environment is read. -/
def Options.profile (o : Options) (env : Environment) : String :=
  ((o.value? .profile) <|> env.get? "IACGUARD_PROFILE").getD ""

/-- The policy configuration of the options and the environment. -/
def Options.policy (o : Options) (env : Environment) : PolicyConfig :=
  let c := (Config.forProfile env (o.profile env)).policy
  let list (s : Setting) (otherwise : List String) : List String :=
    ((o.value? s).map splitList).getD otherwise
  { c with
    basePath := ((o.value? .basePath).map Path.ofString).getD c.basePath
    repoPath := (o.value? .repoPath).map Path.ofString <|> c.repoPath
    scanRules := list .scanRules c.scanRules
    skipRules := list .skipRules c.skipRules
    categories := list .categories c.categories
    policyTypes := list .policyTypes c.policyTypes
    severity := o.value? .severity <|> c.severity }

end Inventory
end Rulebook
