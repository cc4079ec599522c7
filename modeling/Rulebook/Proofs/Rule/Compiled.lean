/-
# Compiling, call by call

Specification §4.3 (Rule Compiler).

Rules are compiled in the order of their keys, and a backend is called twice for each: with
the body, and with the query of the module that the body gave. `PreparedRule` is a rule for
which both calls succeed, `Refuses` says what happens at one for which they do not. Then
compiling can come to two things only (`compileRules_cases`): either all rules are prepared,
or the rules up to some key are, the rule under that key is refused, and no rule behind it
is shown to the backend. `compileRules_in_key_order` reads off when which of them happens.

Where compiling succeeds it adds a query to every rule and changes nothing else: without
its queries, the compiled map is the map that was compiled (`map_loaded_of_compileRules_eq_ok`).
-/

import Rulebook.Rule.Compiled
import Rulebook.Proofs.SortedMap

namespace Rulebook

variable {Module Query : Type} {b : Backend Module Query} {base : String}

/-- A rule that a backend takes: its body gives a module, from which its query is prepared. -/
structure PreparedRule (b : Backend Module Query) (base : String) where
  key : String
  loaded : LoadedRule
  module : Module
  query : Query
  compile_eq : b.compile loaded.rule.name loaded.body = .ok module
  prepare_eq : b.prepare module (queryPath base loaded.rule.name) = .ok query

namespace PreparedRule

/-- The rule under its key, before it was compiled. -/
def entry (p : PreparedRule b base) : String × LoadedRule := (p.key, p.loaded)

/-- The rule under its key with its query. -/
def compiled (p : PreparedRule b base) : String × CompiledRule Query := (p.key, ⟨p.loaded, p.query⟩)

/-- The calls for the rule: the body is compiled, and right after it the query is prepared. -/
def calls (p : PreparedRule b base) : List (BackendCall Module) :=
  [.compile p.loaded.rule.name p.loaded.body, .prepare p.module (queryPath base p.loaded.rule.name)]

end PreparedRule

/-- A rule that a backend refuses, with the calls for it and the error that they end in. No
query is prepared for a body that does not compile. -/
inductive Refuses (b : Backend Module Query) (base : String) (loaded : LoadedRule) :
    List (BackendCall Module) → CompileError → Prop
  | body {cause : BackendError} (hbody : b.compile loaded.rule.name loaded.body = .error cause) :
      Refuses b base loaded [.compile loaded.rule.name loaded.body]
        ⟨loaded.rule.name, .compile, cause⟩
  | query {module : Module} {cause : BackendError}
      (hbody : b.compile loaded.rule.name loaded.body = .ok module)
      (hquery : b.prepare module (queryPath base loaded.rule.name) = .error cause) :
      Refuses b base loaded
        [.compile loaded.rule.name loaded.body, .prepare module (queryPath base loaded.rule.name)]
        ⟨loaded.rule.name, .prepare, cause⟩

/-- A refused rule is not prepared. -/
theorem Refuses.prepare_ne_ok {loaded : LoadedRule} {calls : List (BackendCall Module)}
    {error : CompileError} (h : Refuses b base loaded calls error) {module : Module}
    (hcompile : b.compile loaded.rule.name loaded.body = .ok module) (query : Query) :
    b.prepare module (queryPath base loaded.rule.name) ≠ .ok query := by
  intro hprepare
  cases h with
  | body hbody => cases hbody.symm.trans hcompile
  | query hbody hquery =>
    obtain rfl := Except.ok.inj (hbody.symm.trans hcompile)
    cases hquery.symm.trans hprepare

/-- **All that compiling a list of rules can come to**, with the calls on the way. -/
theorem compileEntries_cases (b : Backend Module Query) (base : String)
    (entries : List (String × LoadedRule)) :
    (∃ ps : List (PreparedRule b base), entries = ps.map PreparedRule.entry ∧
      compileEntries b base entries =
        ⟨ps.flatMap PreparedRule.calls, .ok (ps.map PreparedRule.compiled)⟩) ∨
    ∃ (ps : List (PreparedRule b base)) (key : String) (loaded : LoadedRule)
      (later : List (String × LoadedRule)) (calls : List (BackendCall Module))
      (error : CompileError),
      entries = ps.map PreparedRule.entry ++ (key, loaded) :: later ∧
        Refuses b base loaded calls error ∧
        compileEntries b base entries = ⟨ps.flatMap PreparedRule.calls ++ calls, .error error⟩ := by
  induction entries with
  | nil => exact .inl ⟨[], rfl, rfl⟩
  | cons e rest ih =>
    obtain ⟨key, loaded⟩ := e
    rcases hcompile : b.compile loaded.rule.name loaded.body with cause | module
    · refine .inr ⟨[], key, loaded, rest, _, _, rfl, .body hcompile, ?_⟩
      simp only [compileEntries, hcompile, List.flatMap_nil, List.nil_append]
    · rcases hprepare : b.prepare module (queryPath base loaded.rule.name) with cause | query
      · refine .inr ⟨[], key, loaded, rest, _, _, rfl, .query hcompile hprepare, ?_⟩
        simp only [compileEntries, hcompile, hprepare, List.flatMap_nil, List.nil_append]
      · -- The rule is prepared, so what the others come to decides.
        let p : PreparedRule b base := ⟨key, loaded, module, query, hcompile, hprepare⟩
        rcases ih with
          ⟨ps, rfl, hrest⟩ | ⟨ps, key', refused, later, calls, error, rfl, hrefused, hrest⟩
        · refine .inl ⟨p :: ps, rfl, ?_⟩
          simp only [compileEntries, hcompile, hprepare, hrest]
          rfl
        · refine .inr ⟨p :: ps, key', refused, later, calls, error, rfl, hrefused, ?_⟩
          simp only [compileEntries, hcompile, hprepare, hrest]
          rfl

/-- **All that compiling rules can come to.** Either all are prepared, in the order of their
keys, or the rules before some key are, and the rule under that key is refused. -/
theorem compileRules_cases (b : Backend Module Query) (base : String)
    (rules : SortedMap LoadedRule) :
    (∃ (ps : List (PreparedRule b base)) (compiled : SortedMap (CompiledRule Query)),
      rules.entries = ps.map PreparedRule.entry ∧
        compiled.entries = ps.map PreparedRule.compiled ∧
        compileRules b base rules = ⟨ps.flatMap PreparedRule.calls, .ok compiled⟩) ∨
    ∃ (ps : List (PreparedRule b base)) (key : String) (loaded : LoadedRule)
      (later : List (String × LoadedRule)) (calls : List (BackendCall Module))
      (error : CompileError),
      rules.entries = ps.map PreparedRule.entry ++ (key, loaded) :: later ∧
        Refuses b base loaded calls error ∧
        compileRules b base rules = ⟨ps.flatMap PreparedRule.calls ++ calls, .error error⟩ := by
  rcases compileEntries_cases b base rules.entries with
    ⟨ps, hentries, hcompile⟩ | ⟨ps, key, loaded, later, calls, error, hentries, hrefused, hcompile⟩
  · have hascending : Ascending (ps.map PreparedRule.compiled) := by
      have hkeys := rules.ascending
      rw [hentries, Ascending, List.pairwise_map] at hkeys
      exact List.pairwise_map.2 hkeys
    refine .inl ⟨ps, ⟨_, hascending⟩, hentries, rfl, ?_⟩
    rw [compileRules, hcompile, ← SortedMap.ofList_of_ascending hascending]
    rfl
  · refine .inr ⟨ps, key, loaded, later, calls, error, hentries, hrefused, ?_⟩
    rw [compileRules, hcompile]
    rfl

/-- **Without their queries, compiled rules are the rules that were compiled**, under the
same keys. -/
theorem map_loaded_of_compileRules_eq_ok {rules : SortedMap LoadedRule}
    {compiled : SortedMap (CompiledRule Query)}
    (h : (compileRules b base rules).outcome = .ok compiled) :
    (compiled.map fun _ c => c.loaded) = rules := by
  rcases compileRules_cases b base rules with
    ⟨ps, found, hentries, hfound, hcompile⟩ | ⟨_, _, _, _, _, _, -, -, hcompile⟩
  · rw [hcompile] at h
    obtain rfl := Except.ok.inj h
    refine SortedMap.ext ?_
    show found.entries.map (fun e => (e.1, e.2.loaded)) = rules.entries
    rw [hentries, hfound, List.map_map]
    rfl
  · rw [hcompile] at h
    cases h

/-- **Compiling stops at the first rule that is refused.** Compiling succeeds exactly if
every rule's body compiles and its query can be prepared from the module. Then every rule
is there under its key, as it was and with the query of its own module, and the backend was
called twice for each rule, in the order of the bytes of their keys. Otherwise the error is
that of the rule with the least key that is refused: the rules with smaller keys have been
prepared, and no call is made for a rule with a greater key. -/
theorem compileRules_in_key_order (b : Backend Module Query) (base : String)
    (rules : SortedMap LoadedRule) :
    (rules.keys.Pairwise fun k k' => Text.encodeUtf8 k < Text.encodeUtf8 k') ∧
    ((∃ compiled, (compileRules b base rules).outcome = .ok compiled) ↔
      ∀ key loaded, rules.get? key = some loaded → ∃ module query,
        b.compile loaded.rule.name loaded.body = .ok module ∧
          b.prepare module (base ++ "." ++ loaded.rule.name) = .ok query) ∧
    (∀ compiled, (compileRules b base rules).outcome = .ok compiled →
      ∃ ps : List (PreparedRule b base), rules.entries = ps.map PreparedRule.entry ∧
        compiled.entries = ps.map PreparedRule.compiled ∧
        (compileRules b base rules).calls = ps.flatMap PreparedRule.calls) ∧
    ∀ error, (compileRules b base rules).outcome = .error error →
      ∃ (ps : List (PreparedRule b base)) (key : String) (loaded : LoadedRule)
        (later : List (String × LoadedRule)) (calls : List (BackendCall Module)),
        rules.entries = ps.map PreparedRule.entry ++ (key, loaded) :: later ∧
          Refuses b base loaded calls error ∧
          (compileRules b base rules).calls = ps.flatMap PreparedRule.calls ++ calls := by
  refine ⟨rules.pairwise_encodeUtf8_keys, ?_⟩
  rcases compileRules_cases b base rules with
    ⟨ps, compiled, hentries, hcompiled, hcompile⟩ |
    ⟨ps, key, loaded, later, calls, error, hentries, hrefused, hcompile⟩
  · rw [hcompile]
    refine ⟨⟨fun _ key loaded hget => ?_, fun _ => ⟨compiled, rfl⟩⟩, fun found hfound => ?_,
      fun error herror => ?_⟩
    · rw [← SortedMap.mem_entries_iff, hentries] at hget
      obtain ⟨p, -, hp⟩ := List.mem_map.1 hget
      obtain ⟨rfl, rfl⟩ := Prod.mk.inj hp
      exact ⟨p.module, p.query, p.compile_eq, p.prepare_eq⟩
    · obtain rfl := Except.ok.inj hfound
      exact ⟨ps, hentries, hcompiled, rfl⟩
    · cases herror
  · rw [hcompile]
    refine ⟨⟨fun ⟨_, h⟩ => ?_, fun h => ?_⟩, fun found hfound => ?_, fun e he => ?_⟩
    · cases h
    · have hget : rules.get? key = some loaded := by
        rw [← SortedMap.mem_entries_iff, hentries]
        simp
      obtain ⟨module, query, hmodule, hquery⟩ := h key loaded hget
      exact absurd hquery (hrefused.prepare_ne_ok hmodule query)
    · cases hfound
    · obtain rfl := Except.error.inj he
      exact ⟨ps, key, loaded, later, calls, hentries, hrefused, rfl⟩

/-! ### Three rules, the second of which has no query -/

namespace MissingQuery

/-- A loaded rule with a name. -/
def loaded (name : String) : LoadedRule where
  rule :=
    { name, file := "x", templateArgs := .empty, severity := .low, description := "",
      referenceId := name, category := "", version := 1, id := "", resourceType := "",
      policyType := "" }
  body := "deny " ++ name
  bodyPath := ⟨"/x"⟩

/-- Rules whose names are not in the order of their keys. -/
def rules : SortedMap LoadedRule :=
  .ofList [("R.2", loaded "b"), ("R.3", loaded "a"), ("R.1", loaded "c")]

/-- A backend that finds no query for one name and compiles no body of another. -/
def backend : Backend String String where
  compile name body :=
    if name = "a" then .error (.compile "unexpected token") else .ok (name ++ ": " ++ body)
  prepare module path :=
    if path = "data.b" then .error (.prepare "undefined") else .ok (module ++ path)
  evaluate _ _ := .ok []

/-- A backend that takes every rule. -/
def lenient : Backend String String where
  compile name body := .ok (name ++ ": " ++ body)
  prepare module path := .ok (module ++ path)
  evaluate _ _ := .ok []

/-- The hypotheses of `compileRules_in_key_order` are satisfiable: the rule under the second
key is refused before the one under the third is looked at, and nothing is refused by a
backend that takes every rule. -/
theorem compileRules_in_key_order_missingQuery :
    (compileRules backend "data" rules).outcome =
        .error ⟨"b", .prepare, .prepare "undefined"⟩ ∧
      (∃ (ps : List (PreparedRule backend "data")) (key : String) (refused : LoadedRule)
        (later : List (String × LoadedRule)) (calls : List (BackendCall String)),
        rules.entries = ps.map PreparedRule.entry ++ (key, refused) :: later ∧
          Refuses backend "data" refused calls ⟨"b", .prepare, .prepare "undefined"⟩ ∧
          (compileRules backend "data" rules).calls = ps.flatMap PreparedRule.calls ++ calls) ∧
      rules.get? "R.1" = some (loaded "c") ∧
      ∃ compiled, (compileRules lenient "data" rules).outcome = .ok compiled ∧
        (∃ module query, lenient.compile "c" "deny c" = .ok module ∧
          lenient.prepare module ("data" ++ "." ++ "c") = .ok query) ∧
        ∃ ps : List (PreparedRule lenient "data"), rules.entries = ps.map PreparedRule.entry ∧
          compiled.entries = ps.map PreparedRule.compiled ∧
          (compileRules lenient "data" rules).calls = ps.flatMap PreparedRule.calls := by
  have herror : (compileRules backend "data" rules).outcome =
      .error ⟨"b", .prepare, .prepare "undefined"⟩ := by
    rfl
  have hget : rules.get? "R.1" = some (loaded "c") := by
    rfl
  obtain ⟨-, -, -, hrefused⟩ := compileRules_in_key_order backend "data" rules
  obtain ⟨-, hiff, hprepared, -⟩ := compileRules_in_key_order lenient "data" rules
  obtain ⟨compiled, hcompiled⟩ := hiff.2 fun _ _ _ => ⟨_, _, rfl, rfl⟩
  exact ⟨herror, hrefused _ herror, hget, compiled, hcompiled,
    hiff.1 ⟨compiled, hcompiled⟩ _ _ hget, hprepared compiled hcompiled⟩

end MissingQuery

end Rulebook
