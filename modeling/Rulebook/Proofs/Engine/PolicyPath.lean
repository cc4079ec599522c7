/-
# The part of the base path that is loaded

Specification §10.3 (Configuration).

A configuration loads rules from its base path, or from the part of it that the repository
path names. A relative repository path, whatever dots and slashes it holds, names a part of
the base path: it is either one as it is, made absolute in the working directory, or it is
joined to the base path, which puts its components behind those of the base path
(`Path.components_join_relative`). An absolute one replaces what it is joined to. So rules are
loaded from below the base path unless an absolute repository path leads somewhere else, and
then they are loaded from there (`PolicyConfig.loads_below_base_iff`).
-/

import Rulebook.Proofs.Engine.Setup
import Rulebook.Proofs.Path

namespace Rulebook

namespace Path

/-- In an absolute directory every path is made absolute. -/
theorem isAbsolute_absolute {cwd : Path} (h : cwd.isAbsolute = true) (p : Path) :
    (cwd.absolute p).isAbsolute = true := by
  unfold absolute
  split
  · assumption
  · exact isAbsolute_join h p

/-- A path is below another one if its components start with those of the other. -/
theorem below_iff {base p : Path} : base.below p = true ↔ base.components <+: p.components :=
  List.isPrefixOf_iff_prefix

/-- A relative path that is joined to a path leads below it. -/
theorem isPrefix_components_join {p q : Path} (hp : p.text ≠ "") (hq : q.isAbsolute = false) :
    p.components <+: (p.join q).components := by
  rw [components_join_relative hp hq]
  exact List.prefix_append ..

end Path

namespace PolicyConfig

variable {cwd : Except FileError Path} {c : PolicyConfig} {base path repo : Path}

/-- Where rules are loaded from, given the absolute base path and the repository path as it is
written. -/
inductive LoadsFrom (cwd : Except FileError Path) (base : Path) : Option Path → Path → Prop
  | whole : LoadsFrom cwd base none base
  | below {repo whole : Path} : absolutePath cwd repo = .ok whole →
      base.components <+: whole.components → LoadsFrom cwd base (some repo) whole
  | joined {repo whole : Path} : absolutePath cwd repo = .ok whole →
      ¬ base.components <+: whole.components → LoadsFrom cwd base (some repo) (base.join repo)

/-- **What paths are resolved to.** -/
theorem resolvePaths_eq_ok_iff :
    c.resolvePaths cwd = .ok (base, path) ↔
      absolutePath cwd c.basePath = .ok base ∧ LoadsFrom cwd base c.repoPath path := by
  constructor
  · intro h
    rw [resolvePaths] at h
    rcases hbase : absolutePath cwd c.basePath with e | base'
    · simp only [hbase, reduceCtorEq] at h
    rcases hrepo : c.repoPath with _ | repo
    · simp only [hbase, hrepo, Except.ok.injEq, Prod.mk.injEq] at h
      obtain ⟨rfl, rfl⟩ := h
      exact ⟨rfl, .whole⟩
    rcases hwhole : absolutePath cwd repo with e | whole
    · simp only [hbase, hrepo, hwhole, reduceCtorEq] at h
    simp only [hbase, hrepo, hwhole, Except.ok.injEq, Prod.mk.injEq] at h
    obtain ⟨rfl, rfl⟩ := h
    refine ⟨rfl, ?_⟩
    split_ifs with hbelow
    · exact .below hwhole (Path.below_iff.1 hbelow)
    · exact .joined hwhole (mt Path.below_iff.2 hbelow)
  · rintro ⟨hbase, hpath⟩
    rw [resolvePaths, hbase]
    rcases hrepo : c.repoPath with _ | repo <;> rw [hrepo] at hpath
    · cases hpath
      rfl
    · cases hpath with
      | below hwhole hbelow => simp only [hwhole, if_pos (Path.below_iff.2 hbelow)]
      | joined hwhole houtside => simp only [hwhole, if_neg (mt Path.below_iff.1 houtside)]

/-- What is made absolute in an absolute directory is absolute. -/
theorem isAbsolute_of_absolutePath (hcwd : ∀ d, cwd = .ok d → d.isAbsolute = true) {p q : Path}
    (h : absolutePath cwd p = .ok q) : q.isAbsolute = true := by
  rcases habsolute : p.isAbsolute with _ | _
  · rcases cwd with e | d
    · simp [absolutePath, habsolute] at h
    · rw [absolutePath_ok] at h
      obtain rfl := Except.ok.inj h
      exact Path.isAbsolute_absolute (hcwd d rfl) p
  · rw [absolutePath_of_isAbsolute habsolute] at h
    rwa [← Except.ok.inj h]

/-- **A relative repository path leads below the base path.** -/
theorem LoadsFrom.below_base (h : LoadsFrom cwd base (some repo) path)
    (hbase : base.isAbsolute = true) (hrelative : repo.isAbsolute = false) :
    base.components <+: path.components := by
  cases h with
  | below _ hbelow => exact hbelow
  | joined _ _ =>
    exact Path.isPrefix_components_join (Path.text_ne_empty_of_isAbsolute hbase) hrelative

/-- **An absolute repository path is the one that is loaded**, below the base path or not. -/
theorem LoadsFrom.eq_of_isAbsolute (h : LoadsFrom cwd base (some repo) path)
    (habsolute : repo.isAbsolute = true) : path = repo := by
  cases h with
  | below hwhole _ =>
    rw [absolutePath_of_isAbsolute habsolute] at hwhole
    exact (Except.ok.inj hwhole).symm
  | joined _ _ => exact Path.join_of_isAbsolute habsolute base

/-- **The part of the base path that is loaded.** In an absolute working directory, rules are
loaded from below the base path exactly if the repository path, when it is absolute, lies
there. Otherwise the repository path itself, as it is written, is what rules are loaded from.
The paths that are resolved are those of every load in that working directory. -/
theorem loads_below_base_iff (hcwd : ∀ d, cwd = .ok d → d.isAbsolute = true)
    (h : c.resolvePaths cwd = .ok (base, path)) :
    (base.components <+: path.components ↔
      ∀ repo, c.repoPath = some repo → repo.isAbsolute = true →
        base.components <+: repo.components) ∧
    (¬ base.components <+: path.components → c.repoPath = some path) ∧
    ∀ (tree : FileTree) loaded set, tree.currentDirectory = cwd →
      c.loadRules tree = .ok (loaded, set) →
        loaded = path ∧ ∃ s, RuleSet.load tree s path = .ok set := by
  have hloaded : ∀ (tree : FileTree) loaded set, tree.currentDirectory = cwd →
      c.loadRules tree = .ok (loaded, set) →
        loaded = path ∧ ∃ s, RuleSet.load tree s path = .ok set := by
    rintro tree loaded set rfl hrules
    obtain ⟨⟨base', hpaths⟩, -, s, -, hload⟩ := loadRules_eq_ok_iff.1 hrules
    obtain ⟨-, rfl⟩ := Prod.mk.inj (Except.ok.inj (hpaths.symm.trans h))
    exact ⟨rfl, s, hload⟩
  obtain ⟨hbase, hpath⟩ := resolvePaths_eq_ok_iff.1 h
  rcases hrepo : c.repoPath with _ | repo <;> rw [hrepo] at hpath
  · -- Without a repository path the whole base path is loaded.
    cases hpath
    exact ⟨⟨fun _ _ h => (by cases h), fun _ => List.prefix_rfl⟩,
      fun h => absurd List.prefix_rfl h, hloaded⟩
  · rcases habsolute : repo.isAbsolute with _ | _
    · have hbelow := hpath.below_base (isAbsolute_of_absolutePath hcwd hbase) habsolute
      refine ⟨⟨fun _ repo' h habs => ?_, fun _ => hbelow⟩, fun h => absurd hbelow h, hloaded⟩
      obtain rfl := Option.some.inj h
      rw [habsolute] at habs
      cases habs
    · obtain rfl := hpath.eq_of_isAbsolute habsolute
      refine ⟨⟨fun h repo' hrepo' _ => ?_, fun h => h path rfl habsolute⟩, fun _ => rfl, hloaded⟩
      rwa [← Option.some.inj hrepo']

/-! ### Repository paths that lead below the base path, and one that does not -/

/-- A configuration whose base path is one directory, and whose repository path is another. -/
def outside : PolicyConfig where
  basePath := ⟨"/srv/policies"⟩
  repoPath := some ⟨"/etc/rules"⟩

/-- The configuration loads from its repository path. -/
theorem resolvePaths_outside (cwd : Except FileError Path) :
    outside.resolvePaths cwd = .ok (⟨"/srv/policies"⟩, ⟨"/etc/rules"⟩) := by
  rfl

/-- Not every repository path names a part of the base path: an absolute one that lies
elsewhere is loaded in its place. -/
theorem not_loads_below_base :
    ¬ ∀ (cwd : Except FileError Path) (c : PolicyConfig) (base path : Path),
      (∀ d, cwd = .ok d → d.isAbsolute = true) → c.resolvePaths cwd = .ok (base, path) →
        base.components <+: path.components := by
  intro h
  have hcwd : ∀ d, Except.ok (ε := FileError) (⟨"/"⟩ : Path) = .ok d → d.isAbsolute = true := by
    rintro _ ⟨⟩
    decide
  exact absurd (h _ outside _ _ hcwd (resolvePaths_outside _)) (by decide)

/-- A configuration whose repository path goes up and down again. -/
def winding : PolicyConfig where
  basePath := ⟨"policies"⟩
  repoPath := some ⟨"./aws//../k8s"⟩

/-- The working directory `/srv`. -/
def srv : Except FileError Path := .ok ⟨"/srv"⟩

/-- The working directory is absolute. -/
theorem isAbsolute_srv : ∀ d, srv = .ok d → d.isAbsolute = true := by
  rintro _ ⟨⟩
  decide

/-- The configuration loads from its repository path, joined to the base path. -/
theorem resolvePaths_winding :
    winding.resolvePaths srv =
      .ok (⟨"/srv/policies"⟩, ⟨"/srv/policies/./aws//../k8s"⟩) := by
  rfl

/-- The hypotheses of `loads_below_base_iff` are satisfiable: a winding repository path leads
below the base path, and a configuration that loads from elsewhere loads from its repository
path. -/
theorem loads_below_base_iff_winding :
    (∀ d, srv = .ok d → d.isAbsolute = true) ∧
      winding.resolvePaths srv =
        .ok (⟨"/srv/policies"⟩, ⟨"/srv/policies/./aws//../k8s"⟩) ∧
      (⟨"/srv/policies"⟩ : Path).components <+:
        (⟨"/srv/policies/./aws//../k8s"⟩ : Path).components ∧
      outside.resolvePaths srv = .ok (⟨"/srv/policies"⟩, ⟨"/etc/rules"⟩) ∧
      outside.repoPath = some ⟨"/etc/rules"⟩ := by
  have hnone : ∀ repo, winding.repoPath = some repo → repo.isAbsolute = true →
      (⟨"/srv/policies"⟩ : Path).components <+: repo.components := by
    intro repo hrepo habsolute
    rw [← Option.some.inj hrepo] at habsolute
    cases habsolute
  have houtside : ¬ (⟨"/srv/policies"⟩ : Path).components <+:
      (⟨"/etc/rules"⟩ : Path).components := by
    decide
  exact ⟨isAbsolute_srv, resolvePaths_winding,
    (loads_below_base_iff isAbsolute_srv resolvePaths_winding).1.2 hnone, resolvePaths_outside srv,
    (loads_below_base_iff isAbsolute_srv (resolvePaths_outside srv)).2.1 houtside⟩

end PolicyConfig

end Rulebook
