/-
# Resolving paths once and for all

Specification §10.3 (Configuration).

What `resolvePaths` returns depends on the working directory only as long as a path of the
configuration is relative. Both paths that it returns are absolute, and a configuration that
holds two absolute paths is resolved to them in every working directory, relative or out of
reach (`resolvePaths_eq_iff`). This does not follow from the test that decides whether the
repository path is joined to the base path: a repository path that lay outside the base path
still lies outside it the second time. But what is joined then is absolute, and an absolute
path replaces what it is joined to, so that both branches of the test return it.
-/

import Rulebook.Proofs.Engine.PolicyPath

namespace Rulebook

namespace PolicyConfig

variable {cwd : Except FileError Path} {c : PolicyConfig} {base path repo : Path}

/-- From an absolute base path, and in an absolute working directory, rules are loaded from an
absolute path. -/
theorem LoadsFrom.isAbsolute {repo? : Option Path} (h : LoadsFrom cwd base repo? path)
    (hcwd : ∀ d, cwd = .ok d → d.isAbsolute = true) (hbase : base.isAbsolute = true) :
    path.isAbsolute = true := by
  cases h with
  | whole => exact hbase
  | below hwhole _ => exact isAbsolute_of_absolutePath hcwd hwhole
  | joined _ _ => exact Path.isAbsolute_join hbase _

/-- In an absolute working directory both paths are resolved to absolute ones. -/
theorem isAbsolute_of_resolvePaths (hcwd : ∀ d, cwd = .ok d → d.isAbsolute = true)
    (h : c.resolvePaths cwd = .ok (base, path)) :
    base.isAbsolute = true ∧ path.isAbsolute = true := by
  obtain ⟨hbase, hpath⟩ := resolvePaths_eq_ok_iff.1 h
  have hbase := isAbsolute_of_absolutePath hcwd hbase
  exact ⟨hbase, hpath.isAbsolute hcwd hbase⟩

/-- **The paths that are resolved to themselves are the absolute ones.** -/
theorem resolvePaths_eq_iff (hrepo : c.repoPath = some repo) :
    (∀ cwd, c.resolvePaths cwd = .ok (c.basePath, repo)) ↔
      c.basePath.isAbsolute = true ∧ repo.isAbsolute = true := by
  constructor
  · intro h
    have hroot : ∀ d, Except.ok (ε := FileError) (⟨"/"⟩ : Path) = .ok d → d.isAbsolute = true := by
      rintro _ ⟨⟩
      decide
    exact isAbsolute_of_resolvePaths hroot (h _)
  · rintro ⟨hbase, habsolute⟩ cwd
    refine resolvePaths_eq_ok_iff.2 ⟨absolutePath_of_isAbsolute hbase cwd, ?_⟩
    have hwhole := absolutePath_of_isAbsolute habsolute cwd
    rw [hrepo]
    by_cases hbelow : c.basePath.components <+: repo.components
    · exact .below hwhole hbelow
    · have hjoined := LoadsFrom.joined hwhole hbelow
      rwa [Path.join_of_isAbsolute habsolute] at hjoined

/-- **Resolving paths is stable.** Paths are resolved unless one of them is relative and the
working directory cannot be told. In an absolute working directory, a configuration is resolved
to two absolute paths: the base path made absolute, and the base itself without a repository
path, the repository path made absolute where it lies below the base, and the base joined with
it otherwise. A configuration that holds these two paths is resolved to them again, whatever
else it holds and in whatever working directory. -/
theorem resolvePaths_stable (hcwd : ∀ d, cwd = .ok d → d.isAbsolute = true) (c : PolicyConfig) :
    (∀ e, c.resolvePaths cwd = .error e ↔
      ∃ fault, cwd = .error fault ∧ c.NeedsWorkingDirectory ∧ e = .io fault) ∧
    ∀ base repo, c.resolvePaths cwd = .ok (base, repo) →
      base.isAbsolute = true ∧ repo.isAbsolute = true ∧
      (∀ (cwd' : Except FileError Path) (c' : PolicyConfig), c'.basePath = base →
        c'.repoPath = some repo → c'.resolvePaths cwd' = .ok (base, repo)) ∧
      absolutePath cwd c.basePath = .ok base ∧ LoadsFrom cwd base c.repoPath repo := by
  refine ⟨fun _ => resolvePaths_eq_error_iff, fun base repo h => ?_⟩
  have habsolute := isAbsolute_of_resolvePaths hcwd h
  refine ⟨habsolute.1, habsolute.2, ?_, resolvePaths_eq_ok_iff.1 h⟩
  rintro cwd' c' rfl hrepo
  exact (resolvePaths_eq_iff hrepo).2 habsolute cwd'

/-- The hypothesis of `resolvePaths_stable` is satisfiable, also where the repository path lies
outside the base path, where dots and doubled slashes are kept, and where the working directory
cannot be told. -/
theorem resolvePaths_stable_winding :
    (∀ d, srv = .ok d → d.isAbsolute = true) ∧
      winding.resolvePaths (.error .notFound) = .error (.io .notFound) ∧
      (∀ (cwd : Except FileError Path) (c : PolicyConfig), c.basePath = ⟨"/srv/policies"⟩ →
        c.repoPath = some ⟨"/srv/policies/./aws//../k8s"⟩ →
          c.resolvePaths cwd = .ok (⟨"/srv/policies"⟩, ⟨"/srv/policies/./aws//../k8s"⟩)) ∧
      outside.resolvePaths (.ok ⟨"here"⟩) = outside.resolvePaths srv := by
  have hunknown : ∀ d : Path, Except.error FileError.notFound = .ok d → d.isAbsolute = true :=
    nofun
  have hneeds : winding.NeedsWorkingDirectory := .inl (by decide)
  obtain ⟨-, -, hagain, -, -⟩ := (resolvePaths_stable isAbsolute_srv winding).2 _ _
    resolvePaths_winding
  obtain ⟨-, -, houtside, -, -⟩ := (resolvePaths_stable isAbsolute_srv outside).2 _ _
    (resolvePaths_outside srv)
  refine ⟨isAbsolute_srv, ?_, hagain, ?_⟩
  · exact ((resolvePaths_stable hunknown winding).1 _).2 ⟨_, rfl, hneeds, rfl⟩
  · rw [houtside _ outside rfl rfl, resolvePaths_outside]

end PolicyConfig

end Rulebook
