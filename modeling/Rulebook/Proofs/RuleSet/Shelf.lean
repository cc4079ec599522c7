/-
# A shelf of rules

The plainest policy tree is a single directory with metadata files and one body file, which all
of them name. The results about loads and engines are tried out on such trees. In the order of
their names the metadata files are what a load deals with (`Shelf.metadataFiles_tree`), and each
registers its rule with what the body is rendered as (`Shelf.registers`).
-/

import Rulebook.Proofs.FileTree.Descend
import Rulebook.Proofs.RuleSet.Order

namespace Rulebook
namespace Shelf

/-- A rule of a shelf, with the fields in which rules differ there. -/
def rule (name referenceId category : String) : Rule where
  name
  file := "x"
  templateArgs := .empty
  severity := .low
  description := ""
  referenceId
  category
  version := 0
  id := ""
  resourceType := ""
  policyType := ""

/-- The contents of the metadata file of a rule, as a list of fields. -/
def metadata (name referenceId category : String) : List UInt8 :=
  Text.encodeUtf8 ("[\"" ++ name ++ "\",\"x\",\x7b\x7d,\"LOW\",\"\",\"" ++ referenceId ++ "\",\"" ++
    category ++ "\"]")

/-- The outline of the metadata file of a rule. -/
def outline (name referenceId category : String) : Json.Source :=
  .array false [.string (.ok name), .string (.ok "x"), .object false [] .closed,
    .string (.ok "LOW"), .string (.ok ""), .string (.ok referenceId), .string (.ok category)]
    .closed

/-- Metadata with the outline of a rule are read as this rule. -/
theorem ofBytes_metadata {name referenceId category : String}
    (h : Json.Document.read (metadata name referenceId category) =
      ⟨outline name referenceId category, false⟩) :
    Rule.ofBytes (metadata name referenceId category) = .ok (rule name referenceId category) := by
  rw [Rule.ofBytes, Json.decodeBytes, h]
  rfl

section

variable {files : List (RawText × List UInt8)} {body : List UInt8}

/-- The entries of a shelf: the body and the metadata files. -/
def entries (files : List (RawText × List UInt8)) (body : List UInt8) :
    List (RawText × FileNode) :=
  ("x", .file body) :: files.map fun f => (f.1, .file f.2)

/-- The tree with a shelf at `/p`. -/
def tree (files : List (RawText × List UInt8)) (body : List UInt8) : FileTree where
  root := .directory [("p", .directory (entries files body))]
  workingDirectory := ⟨"/"⟩

/-- A metadata file of a shelf as it is read. -/
def scanned (f : RawText × List UInt8) : ScannedFile :=
  ⟨⟨"/p"⟩, (⟨"/p"⟩ : Path).join ⟨f.1⟩, Rule.ofBytes f.2⟩

/-- The files are in the order of their names, which are those of metadata files. -/
structure Orderly (files : List (RawText × List UInt8)) : Prop where
  pairwise_lt : files.Pairwise fun f g => f.1 < g.1
  isEntryName : ∀ f ∈ files, IsEntryName f.1
  isMetadataName : ∀ f ∈ files, isMetadataName f.1 = true

instance (files : List (RawText × List UInt8)) : Decidable (Orderly files) :=
  decidable_of_iff ((files.Pairwise fun f g => f.1 < g.1) ∧ (∀ f ∈ files, IsEntryName f.1) ∧
      ∀ f ∈ files, Rulebook.isMetadataName f.1 = true)
    ⟨fun ⟨h₁, h₂, h₃⟩ => ⟨h₁, h₂, h₃⟩, fun ⟨h₁, h₂, h₃⟩ => ⟨h₁, h₂, h₃⟩⟩

/-- A single metadata file is in order. -/
theorem Orderly.singleton (name : RawText) (hentry : IsEntryName name)
    (hmetadata : Rulebook.isMetadataName name = true) (bytes : List UInt8) :
    Orderly [(name, bytes)] :=
  ⟨List.pairwise_singleton .., List.forall_mem_singleton.2 hentry,
    List.forall_mem_singleton.2 hmetadata⟩

/-- No directory of the tree has a name twice. -/
theorem wellNamed_entries (h : Orderly files) :
    (FileNode.directory (entries files body)).WellNamed := by
  have hbody : isMetadataName "x" = false := by decide
  refine FileNode.wellNamed_directory_iff.2 ⟨?_, ?_⟩
  · rw [entries, List.map_cons, List.map_map, List.nodup_cons]
    refine ⟨fun hmem => ?_, List.pairwise_map.2 (h.pairwise_lt.imp fun hlt => hlt.ne)⟩
    -- A metadata file is not named as the body is.
    obtain ⟨f, hf, hname : f.1 = "x"⟩ := List.mem_map.1 hmem
    exact Bool.false_ne_true (hbody.symm.trans (hname ▸ h.isMetadataName f hf))
  · have hname : IsEntryName "x" := by decide
    refine List.forall_mem_cons.2 ⟨⟨hname, .file body⟩, fun e he => ?_⟩
    obtain ⟨f, hf, rfl⟩ := List.mem_map.1 he
    exact ⟨h.isEntryName f hf, .file f.2⟩

/-- No directory of the tree has a name twice. -/
theorem wellNamed_tree (h : Orderly files) : (tree files body).root.WellNamed :=
  have hname : IsEntryName "p" := by decide
  FileNode.wellNamed_singleton hname (wellNamed_entries h)

/-- The shelf is found at `/p`. -/
theorem locate_tree :
    (tree files body).locate false ⟨"/p"⟩ = .ok (["p"], .directory (entries files body)) := rfl

/-- The metadata files are found on the shelf, with their contents. -/
theorem regular?_tree (h : Orderly files) {f : RawText × List UInt8} (hf : f ∈ files) :
    (tree files body).regular? ((⟨"/p"⟩ : Path).join ⟨f.1⟩) = some f.2 := by
  have hmem : (f.1, FileNode.file f.2) ∈ entries files body :=
    List.mem_cons_of_mem _ (List.mem_map_of_mem hf)
  have hat : (FileNode.directory (entries files body)).at? [f.1] = some (.file f.2) := by
    rw [FileNode.at?_directory_cons,
      (lookup_eq_some_iff_mem (wellNamed_entries h [] _ rfl).1).2 hmem]
    rfl
  have hname := h.isEntryName f hf
  have hshort : ((⟨"/p"⟩ : Path).join ⟨f.1⟩).text.bytes.length < pathLimit := by
    have hlength := (Path.length_join (p := ⟨"/p"⟩) (by decide) hname).2
    have hlimit : f.1.bytes.length ≤ 255 := hname.le_nameLimit
    have hroot : (⟨"/p"⟩ : Path).text.bytes.length = 2 := rfl
    have hpath : pathLimit = 4096 := rfl
    omega
  exact FileTree.regular?_eq_some_iff.2
    ⟨_, FileTree.locate_descend (wellNamed_tree h) locate_tree hat (by simp) hshort⟩

/-- **The metadata files of a shelf are its files**, in their order. -/
theorem metadataFiles_tree (h : Orderly files) :
    (tree files body).metadataFiles ⟨"/p"⟩ = .ok (files.map scanned) := by
  have hdirectories : (tree files body).directories ⟨"/p"⟩ =
      .ok [⟨⟨"/p"⟩, entries files body⟩] := by
    have hbelow : directoriesBelow ⟨"/p"⟩ (entries files body) = [] := by
      rw [directoriesBelow_eq_flatMap, entries, List.flatMap_cons, List.flatMap_map]
      exact List.flatMap_eq_nil_iff.2 fun _ _ => rfl
    rw [FileTree.directories, locate_tree]
    exact congrArg (fun ds => Except.ok (_ :: ds)) hbelow
  have hcandidates : (tree files body).candidates ⟨⟨"/p"⟩, entries files body⟩ = files := by
    have hfound : ((entries files body).filterMap fun e =>
        if isMetadataName e.1 then
          ((tree files body).regular? ((⟨"/p"⟩ : Path).join ⟨e.1⟩)).map (e.1, ·)
        else none) = files := by
      have hbody : isMetadataName "x" = false := by decide
      rw [entries, List.filterMap_cons_none (by simp only [hbody]; rfl), List.filterMap_map]
      refine (List.filterMap_congr fun f hf => ?_).trans List.filterMap_some
      simp only [Function.comp_apply, h.isMetadataName f hf, regular?_tree h hf]
      rfl
    refine (congrArg (List.mergeSort · _) hfound).trans ?_
    exact List.mergeSort_of_pairwise (h.pairwise_lt.imp fun hlt => decide_eq_true hlt.le)
  exact FileTree.metadataFiles_of_directories hdirectories hcandidates

/-- **A metadata file of a shelf registers its rule** with what the body is rendered as. -/
theorem registers {s : Selection} {f : RawText × List UInt8} {name referenceId category : String}
    {text : String} (hparsed : Rule.ofBytes f.2 = .ok (rule name referenceId category))
    (hscreen : s.screen (rule name referenceId category) = none)
    (hrender : renderBody body (rule name referenceId category).withNameArg.templateArgs = .ok text)
    (hblank : Text.isBlankText text = false) :
    (tree files body).Registers s (scanned f) referenceId
      ⟨(rule name referenceId category).withNameArg, text, ⟨"/p/x"⟩⟩ := by
  have hcanon : (tree files body).canonicalize ((⟨"/p"⟩ : Path).join ⟨"x"⟩) = .ok ⟨"/p/x"⟩ := rfl
  exact FileTree.registers_of_body hparsed hscreen hcanon rfl hrender hblank

end

end Shelf
end Rulebook
