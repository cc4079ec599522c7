/-
# Where a configured value comes from

Specification §10.3 (Configuration) and §10.4 (Tooling).

Each field of the policy configuration has sources of its own: an option of the inventory, a
variable with the profile in front, and a variable without it. The first one that gives a text
decides (`PolicyField.Reads`). To give nothing means different things: an option that is given
an empty text gives this text, a variable that is set to an empty text gives none.

A field depends on its sources alone (`PolicyField.of_policy_congr`), and no variable is a
source of two fields, whatever the profile is (`PolicyField.disjoint_names`): what stands in
front of an underscore could make one key of another only if one key ended in another.

A profile counts in upper case. It is turned to upper case once where it is given and twice
where a variable names it, which comes to the same thing (`Text.upper_upper`). So it does not
matter which of them selects the profile.
-/

import Rulebook.Inventory.Options
import Rulebook.Proofs.Text.Upper

namespace Rulebook

namespace Environment

variable {env env' : Environment} {profile key name text : String}

/-- A variable is set to a text that is not empty. -/
def Sets (env : Environment) (name text : String) : Prop := env.get? name = some text ∧ text ≠ ""

/-- A variable is set, and not to the empty text. -/
def IsSet (env : Environment) (name : String) : Prop := ∃ text, env.Sets name text

/-- The value of a variable is the text that it is set to, unless this is empty. -/
theorem nonempty?_eq_some_iff : env.nonempty? name = some text ↔ env.Sets name text := by
  simp [nonempty?, Sets, Option.filter_eq_some_iff]

/-- A variable that is not set, or is empty, has no value. -/
theorem nonempty?_eq_none_iff : env.nonempty? name = none ↔ ¬ env.IsSet name := by
  simp [Option.eq_none_iff_forall_ne_some, nonempty?_eq_some_iff, IsSet]

/-- The variables in which a key is looked up under a profile. -/
def names (profile key : String) : List String :=
  if profile = "" then [key] else [profile ++ "_" ++ key, key]

/-- The names of a key are the key and, under a profile, the key behind the profile. -/
theorem mem_names_iff :
    name ∈ names profile key ↔ name = key ∨ profile ≠ "" ∧ name = profile ++ "_" ++ key := by
  rw [names]
  split <;> simp_all [or_comm]

/-- Without a profile there is one variable for a key. -/
theorem profiled?_of_empty : env.profiled? "" key = env.nonempty? key := if_pos rfl

/-- Under a profile the variable with the profile in front counts first. -/
theorem profiled?_of_ne_empty (h : profile ≠ "") :
    env.profiled? profile key = (env.nonempty? (profile ++ "_" ++ key) <|> env.nonempty? key) :=
  if_neg h

/-- The value of a variable depends on this variable only. -/
theorem nonempty?_congr (h : env.get? name = env'.get? name) :
    env.nonempty? name = env'.nonempty? name := by
  rw [nonempty?, nonempty?, h]

/-- A key is looked up in its variables only. -/
theorem profiled?_congr (h : ∀ name ∈ names profile key, env.get? name = env'.get? name) :
    env.profiled? profile key = env'.profiled? profile key := by
  have hkey := nonempty?_congr (h key (mem_names_iff.2 (.inl rfl)))
  by_cases hempty : profile = ""
  · subst hempty
    rw [profiled?_of_empty, profiled?_of_empty, hkey]
  · have hprofiled := nonempty?_congr (h _ (mem_names_iff.2 (.inr ⟨hempty, rfl⟩)))
    rw [profiled?_of_ne_empty hempty, profiled?_of_ne_empty hempty, hkey, hprofiled]

/-- The names of a key end in the key. -/
theorem isSuffix_of_mem_names (h : name ∈ names profile key) :
    key.toList <:+ name.toList := by
  rcases mem_names_iff.1 h with rfl | ⟨-, rfl⟩
  · exact List.suffix_rfl
  · rw [String.toList_append]
    exact List.suffix_append ..

/-- Keys none of which ends in another have no variable in common under any profile. -/
theorem disjoint_names {key' : String} (h : ¬ key.toList <:+ key'.toList)
    (h' : ¬ key'.toList <:+ key.toList) :
    (names profile key).Disjoint (names profile key') := by
  intro name hname hname'
  -- Both keys end one name, so that the shorter of them ends the other one.
  rcases List.suffix_or_suffix_of_suffix (isSuffix_of_mem_names hname)
      (isSuffix_of_mem_names hname') with hsuffix | hsuffix
  · exact h hsuffix
  · exact h' hsuffix

end Environment

namespace Config

/-- A profile counts in upper case. -/
theorem forProfile_upper (env : Environment) (profile : String) :
    forProfile env (Text.upper profile) = forProfile env profile := by
  rw [forProfile, forProfile, Text.upper_upper]

/-- The environment selects the profile that it names, or none. -/
theorem ofEnvironment_eq (env : Environment) :
    ofEnvironment env = forProfile env ((env.get? "IACGUARD_PROFILE").getD "") :=
  forProfile_upper ..

end Config

open Inventory

/-- A field of the policy configuration. -/
inductive PolicyField where
  | basePath
  | repoPath
  | scanRules
  | skipRules
  | categories
  | policyTypes
  | severity
  | queryBase
deriving DecidableEq, Repr

namespace PolicyField

/-- What a field holds. -/
def Value : PolicyField → Type
  | basePath => Path
  | repoPath => Option Path
  | scanRules | skipRules | categories | policyTypes => List String
  | severity => Option String
  | queryBase => String

/-- The field in a configuration. -/
def of (c : PolicyConfig) : (f : PolicyField) → f.Value
  | basePath => c.basePath
  | repoPath => c.repoPath
  | scanRules => c.scanRules
  | skipRules => c.skipRules
  | categories => c.categories
  | policyTypes => c.policyTypes
  | severity => c.severity
  | queryBase => c.queryBase

/-- What a text makes of the field. -/
def read : (f : PolicyField) → String → f.Value
  | basePath => Path.ofString
  | repoPath => some ∘ Path.ofString
  | scanRules | skipRules | categories | policyTypes => splitList
  | severity => some
  | queryBase => id

/-- What the field is when no source gives a text: it is as in the default configuration. -/
def otherwise (f : PolicyField) : f.Value := f.of {}

/-- The variable of the field, without a profile. -/
def key : PolicyField → String
  | basePath => "IACGUARD_POLICY_BASE_PATH"
  | repoPath => "IACGUARD_POLICY_REPO_PATH"
  | scanRules => "IACGUARD_SCAN_RULES"
  | skipRules => "IACGUARD_SKIP_RULES"
  | categories => "IACGUARD_CATEGORIES"
  | policyTypes => "IACGUARD_POLICY_TYPES"
  | severity => "IACGUARD_SEVERITY"
  | queryBase => "IACGUARD_QUERY_BASE"

/-- The option for the field; there is none for the query namespace. -/
def setting? : PolicyField → Option Setting
  | basePath => some .basePath
  | repoPath => some .repoPath
  | scanRules => some .scanRules
  | skipRules => some .skipRules
  | categories => some .categories
  | policyTypes => some .policyTypes
  | severity => some .severity
  | queryBase => none

/-- The text that an option gives the field. -/
def given? (f : PolicyField) (o : Options) : Option String := f.setting?.bind o.value?

/-- The variables that are sources of the field under a profile. -/
def names (f : PolicyField) (profile : String) : List String :=
  Environment.names profile f.key

/-- The variable of the field with the profile in front gives a text. -/
def IsProfiled (f : PolicyField) (env : Environment) (profile : String) : Prop :=
  profile ≠ "" ∧ env.IsSet (profile ++ "_" ++ f.key)

/-- The text that a field is read from: that of the option, if it is given one, even an empty
one; otherwise that of the variable with the profile in front, unless there is no profile or
the variable is empty; otherwise that of the variable without; none if this is empty, too. -/
inductive Reads (f : PolicyField) (o : Options) (env : Environment) (profile : String) :
    Option String → Prop
  | option {text : String} : f.given? o = some text → Reads f o env profile (some text)
  | profiled {text : String} : f.given? o = none → profile ≠ "" →
      env.Sets (profile ++ "_" ++ f.key) text → Reads f o env profile (some text)
  | plain {text : String} : f.given? o = none → ¬ f.IsProfiled env profile →
      env.Sets f.key text → Reads f o env profile (some text)
  | nothing : f.given? o = none → ¬ f.IsProfiled env profile → ¬ env.IsSet f.key →
      Reads f o env profile none

variable {f g : PolicyField} {o o' : Options} {env env' : Environment} {profile : String}
  {found : Option String}

/-- The text of the first source that gives one. -/
def text? (f : PolicyField) (o : Options) (env : Environment) (profile : String) :
    Option String :=
  f.given? o <|> env.profiled? profile f.key

/-- Where the variable with the profile gives nothing, the other one counts. -/
theorem profiled?_of_not_isProfiled (h : ¬ f.IsProfiled env profile) :
    env.profiled? profile f.key = env.nonempty? f.key := by
  by_cases hempty : profile = ""
  · rw [hempty, Environment.profiled?_of_empty]
  · have hunset : ¬ env.IsSet (profile ++ "_" ++ f.key) := fun hset => h ⟨hempty, hset⟩
    rw [Environment.profiled?_of_ne_empty hempty, Environment.nonempty?_eq_none_iff.2 hunset]
    rfl

/-- **The text of a field is the first one that a source gives**, and no other. -/
theorem reads_iff : f.Reads o env profile found ↔ f.text? o env profile = found := by
  rw [PolicyField.text?]
  constructor
  · intro h
    cases h with
    | option h => rw [h]; rfl
    | profiled h hprofile hset =>
      rw [h, Environment.profiled?_of_ne_empty hprofile, Environment.nonempty?_eq_some_iff.2 hset]
      rfl
    | plain h hprofiled hset =>
      rw [h, profiled?_of_not_isProfiled hprofiled, Environment.nonempty?_eq_some_iff.2 hset]
      rfl
    | nothing h hprofiled hunset =>
      rw [h, profiled?_of_not_isProfiled hprofiled, Environment.nonempty?_eq_none_iff.2 hunset]
      rfl
  · rintro rfl
    rcases hgiven : f.given? o with _ | text
    · by_cases hprofiled : f.IsProfiled env profile
      · obtain ⟨hprofile, text, hset⟩ := hprofiled
        rw [Environment.profiled?_of_ne_empty hprofile, Environment.nonempty?_eq_some_iff.2 hset]
        exact .profiled hgiven hprofile hset
      · rw [profiled?_of_not_isProfiled hprofiled]
        rcases hplain : env.nonempty? f.key with _ | text
        · exact .nothing hgiven hprofiled (Environment.nonempty?_eq_none_iff.1 hplain)
        · exact .plain hgiven hprofiled (Environment.nonempty?_eq_some_iff.1 hplain)
    · exact .option hgiven

/-- Two configurations with the same fields are the same. -/
theorem ext_of {c c' : PolicyConfig} (h : ∀ f : PolicyField, f.of c = f.of c') : c = c' := by
  cases c
  cases c'
  rw [PolicyConfig.mk.injEq]
  exact ⟨h .basePath, h .repoPath, h .scanRules, h .skipRules, h .categories, h .policyTypes,
    h .severity, h .queryBase⟩

/-- Without options a field is read from what its variables give. -/
theorem of_ofEnvironment (f : PolicyField) (env : Environment) (profile : String) :
    f.of (.ofEnvironment env profile) = (env.profiled? profile f.key).elim f.otherwise f.read := by
  rcases h : env.profiled? profile f.key with _ | text
  all_goals
    cases f
    all_goals
      simp only [key] at h
      simp only [of, PolicyConfig.ofEnvironment, Environment.profiledList, h]
      rfl

/-- An option that is given decides a field; otherwise the environment does. -/
theorem of_policy_eq_elim (f : PolicyField) (o : Options) (env : Environment) :
    f.of (o.policy env) =
      (f.given? o).elim (f.of (.ofEnvironment env (Text.upper (o.profile env)))) f.read := by
  simp only [Options.policy, Config.forProfile]
  generalize PolicyConfig.ofEnvironment env (Text.upper (o.profile env)) = c
  cases f
  case queryBase => rfl
  all_goals
    rcases h : given? _ o with _ | text
    all_goals
      rw [given?, setting?, Option.bind_some] at h
      simp only [of, h]
      rfl

/-- **A field of the configuration is read from its text.** -/
theorem of_policy (f : PolicyField) (o : Options) (env : Environment) :
    f.of (o.policy env) =
      (f.text? o env (Text.upper (o.profile env))).elim f.otherwise f.read := by
  rw [of_policy_eq_elim, of_ofEnvironment, PolicyField.text?]
  generalize env.profiled? _ f.key = found
  cases f.given? o <;> rfl

/-- **A field depends on its sources alone**: on the profile, on the option for it, and on the
variables that its key is looked up in. -/
theorem of_policy_congr (hprofile : Text.upper (o.profile env) = Text.upper (o'.profile env'))
    (hgiven : f.given? o = f.given? o')
    (h : ∀ name ∈ f.names (Text.upper (o.profile env)), env.get? name = env'.get? name) :
    f.of (o.policy env) = f.of (o'.policy env') := by
  rw [of_policy, of_policy, ← hprofile, PolicyField.text?, PolicyField.text?, hgiven,
    Environment.profiled?_congr h]

/-! ### No variable is a source of two fields -/

/-- The fields. -/
def all : List PolicyField :=
  [.basePath, .repoPath, .scanRules, .skipRules, .categories, .policyTypes, .severity, .queryBase]

/-- Every field is in the list. -/
theorem mem_all (f : PolicyField) : f ∈ all := by
  cases f <;> decide

/-- No key ends in another one, nor does the variable for the profile end in a key. -/
theorem keys_apart :
    ∀ f ∈ all, (¬ f.key.toList <:+ "IACGUARD_PROFILE".toList) ∧
      ∀ g ∈ all, f ≠ g → ¬ f.key.toList <:+ g.key.toList := by
  decide +kernel

/-- **No variable is a source of two fields**, whatever the profile is. -/
theorem disjoint_names (h : f ≠ g) (profile : String) :
    (f.names profile).Disjoint (g.names profile) :=
  Environment.disjoint_names ((keys_apart f (mem_all f)).2 g (mem_all g) h)
    ((keys_apart g (mem_all g)).2 f (mem_all f) h.symm)

/-- The variable that selects a profile is no source of a field. -/
theorem profile_notMem_names (f : PolicyField) (profile : String) :
    "IACGUARD_PROFILE" ∉ f.names profile :=
  fun h => (keys_apart f (mem_all f)).1 (Environment.isSuffix_of_mem_names h)

/-! ### The profile -/

/-- The configuration for a profile is that of the options that give it and nothing else. -/
theorem forProfile_policy (env : Environment) (profile : String) :
    (Config.forProfile env profile).policy =
      ({ settings := [(.profile, profile)] } : Options).policy env := by
  refine ext_of fun f => ?_
  have hgiven : f.given? { settings := [(.profile, profile)] } = none := by
    cases f <;> rfl
  have hprofile : ({ settings := [(.profile, profile)] } : Options).profile env = profile := rfl
  rw [of_policy_eq_elim, hgiven, hprofile]
  rfl

/-- **To give the profile as an option or to set the variable for it comes to the same.** -/
theorem policy_of_set?_profile (h : o.set? .profile profile = some o') (env : Environment) :
    o'.policy env = o.policy (env.insert "IACGUARD_PROFILE" profile) := by
  rw [Options.set?] at h
  rcases hnone : o.value? .profile with _ | given
  · rw [hnone] at h
    obtain rfl := Option.some.inj h
    have hoption : Options.profile { o with settings := (.profile, profile) :: o.settings } env =
        profile := by
      rw [Options.profile, Options.value?, List.lookup_cons_self]
      rfl
    have hvariable : o.profile (env.insert "IACGUARD_PROFILE" profile) = profile := by
      rw [Options.profile, hnone, SortedMap.get?_insert_self]
      rfl
    refine ext_of fun f => of_policy_congr (by rw [hoption, hvariable]) ?_ fun name hname => ?_
    · cases f <;> rfl
    · have hne : name ≠ "IACGUARD_PROFILE" := by
        rintro rfl
        exact profile_notMem_names f _ hname
      exact (SortedMap.get?_insert_of_ne env hne profile).symm
  · rw [hnone] at h
    cases h

/-- **Each field of the configuration is determined by its own sources.** Whatever the
environment, the profile and the options are, a field is read from exactly one text, that of the
first source that gives one, or is as in the default configuration. A configuration that is made
for a profile is that of the options that give this profile and nothing else.

So a field stays as it is while its option, the profile and its own variables do, and no
variable is a source of two fields. The profile counts in upper case, and is the same whether
the environment names it, a program asks for it or an option gives it. -/
theorem determined_by_sources :
    (∀ (f : PolicyField) (o : Options) (env : Environment), ∃ found,
      (∀ other, f.Reads o env (Text.upper (o.profile env)) other ↔ other = found) ∧
        f.of (o.policy env) = found.elim f.otherwise f.read) ∧
    (∀ (env : Environment) (profile : String),
      (Config.forProfile env profile).policy =
        ({ settings := [(.profile, profile)] } : Options).policy env) ∧
    (∀ (f : PolicyField) (o o' : Options) (env env' : Environment),
      Text.upper (o.profile env) = Text.upper (o'.profile env') → f.given? o = f.given? o' →
        (∀ name ∈ f.names (Text.upper (o.profile env)), env.get? name = env'.get? name) →
          f.of (o.policy env) = f.of (o'.policy env')) ∧
    (∀ (f g : PolicyField) (profile : String), f ≠ g →
      (f.names profile).Disjoint (g.names profile)) ∧
    (∀ env : Environment, Config.ofEnvironment env =
      Config.forProfile env ((env.get? "IACGUARD_PROFILE").getD "")) ∧
    (∀ (env : Environment) (profile : String),
      Config.forProfile env profile = Config.forProfile env (Text.upper profile)) ∧
    (∀ (o o' : Options) (env : Environment) (profile : String),
      o.set? .profile profile = some o' →
        o'.policy env = o.policy (env.insert "IACGUARD_PROFILE" profile)) := by
  refine ⟨fun f o env => ⟨_, fun other => ?_, of_policy f o env⟩, forProfile_policy,
    fun f o o' env env' => of_policy_congr, fun f g profile h => disjoint_names h profile,
    Config.ofEnvironment_eq, fun env profile => (Config.forProfile_upper env profile).symm,
    fun o o' env profile h => policy_of_set?_profile h env⟩
  rw [reads_iff, eq_comm]

/-- Variables under a profile, and a profile variable that is empty. -/
def variablesOfCi : Environment :=
  .ofList
    [ ("CI_IACGUARD_SCAN_RULES", ""),
      ("CI_IACGUARD_SEVERITY", "high"),
      ("IACGUARD_POLICY_BASE_PATH", "rules"),
      ("IACGUARD_SCAN_RULES", "R1, R2"),
      ("IACGUARD_SEVERITY", "low") ]

/-- Options with an empty base path. -/
def emptyBasePath : Options := { settings := [(.basePath, "")] }

/-- Options with an empty base path and a profile. -/
def emptyBasePathOfCi : Options := { settings := [(.profile, "ci"), (.basePath, "")] }

/-- The hypotheses of `determined_by_sources` are satisfiable: the option and the variable select
the same configuration, in which the empty option counts, the empty variable does not, and the
profile goes first; and another variable changes no field. -/
theorem determined_by_sources_ci :
    emptyBasePath.set? .profile "ci" = some emptyBasePathOfCi ∧
      emptyBasePathOfCi.policy variablesOfCi =
        { basePath := ⟨""⟩, scanRules := ["R1", "R2"], severity := some "high" } ∧
      emptyBasePath.policy (variablesOfCi.insert "IACGUARD_PROFILE" "ci") =
        emptyBasePathOfCi.policy variablesOfCi ∧
      scanRules.of (emptyBasePathOfCi.policy (variablesOfCi.insert "IACGUARD_SEVERITY" "")) =
        ["R1", "R2"] ∧
      "IACGUARD_SEVERITY" ∉ scanRules.names "CI" := by
  obtain ⟨-, -, hframe, hdisjoint, -, -, hprofile⟩ := determined_by_sources
  have hset : emptyBasePath.set? .profile "ci" = some emptyBasePathOfCi := by decide
  have hpolicy : emptyBasePathOfCi.policy variablesOfCi =
      { basePath := ⟨""⟩, scanRules := ["R1", "R2"], severity := some "high" } := by
    decide +kernel
  have hnames (profile : String) : "IACGUARD_SEVERITY" ∉ scanRules.names profile := fun hname =>
    hdisjoint severity scanRules profile (by decide) (Environment.mem_names_iff.2 (.inl rfl)) hname
  have hci (env : Environment) : emptyBasePathOfCi.profile env = "ci" := rfl
  have hscan := hframe scanRules emptyBasePathOfCi emptyBasePathOfCi variablesOfCi
    (variablesOfCi.insert "IACGUARD_SEVERITY" "") (by rw [hci, hci]) rfl fun name hname =>
      (SortedMap.get?_insert_of_ne variablesOfCi (ne_of_mem_of_not_mem hname (hnames _)) "").symm
  refine ⟨hset, hpolicy, (hprofile _ _ _ _ hset).symm, ?_, hnames "CI"⟩
  rw [← hscan, hpolicy]
  rfl

end PolicyField

end Rulebook
