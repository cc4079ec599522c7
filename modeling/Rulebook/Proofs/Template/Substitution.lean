/-
# Texts and placeholders

Specification §4.2 (Rule Repository Loader) and §9 (Design Notes).

A rule body of texts and placeholders is filled in: every text stays as it is, and every
placeholder becomes the value of its name, which is not read again. Reading such a body keeps its
placeholders and joins the texts between them, and leaves empty ones out (`merged`). The pieces, the
statements and what these write all come from the parts one by one (`scanFrom_body`,
`addPieces_map`, `runAll_map`), so what is left to see is that joining texts does not change what
is filled in (`filled?_merged`).
-/

import Rulebook.Template.Render
import Rulebook.Proofs.Template.Scan
import Rulebook.Proofs.Template.Name
import Rulebook.Proofs.Text.Utf8

namespace Rulebook
namespace Template

/-- The names of functions that are there without any argument. -/
def functionNames : List String := ["range", "dict", "debug", "namespace"]

/-- A name that stands for an argument and nothing else. -/
structure IsVariable (name : String) : Prop where
  identifier : isIdentifier name.toList = true
  no_keyword : isKeyword name = false
  no_function : name ∉ functionNames

instance (name : String) : Decidable (IsVariable name) :=
  decidable_of_iff
    (isIdentifier name.toList = true ∧ isKeyword name = false ∧ name ∉ functionNames)
    ⟨fun h => ⟨h.1, h.2.1, h.2.2⟩, fun h => ⟨h.1, h.2, h.3⟩⟩

/-- A part of a rule body. -/
inductive Part where
  | text (s : String)
  | placeholder (name : String)
deriving DecidableEq, Repr

namespace Part

/-- The part as it is written. -/
def source : Part → String
  | text s => s
  | placeholder name => "\x7b\x7b " ++ name ++ " \x7d\x7d"

/-- No tag begins in a text, and a placeholder is that of an argument. -/
def IsPlain : Part → Prop
  | text s => Plain s.toList
  | placeholder name => IsVariable name

instance : DecidablePred IsPlain
  | text s => inferInstanceAs (Decidable (Plain s.toList))
  | placeholder name => inferInstanceAs (Decidable (IsVariable name))

/-- The piece that the part is by itself. -/
def piece : Part → Piece
  | text s => .text s
  | placeholder name => .tag .output [.name name]

/-- The statement that the part is by itself. -/
def stmt : Part → Stmt
  | text s => .text s
  | placeholder name => .output (.var name)

/-- The part filled in with the value of its name. -/
def filled (value : String → String) : Part → String
  | text s => s
  | placeholder name => value name

end Part

/-- A rule body of parts. -/
def body (parts : List Part) : String := String.join (parts.map Part.source)

/-- Parts filled in with the values of their names, if all of them have one. -/
def filled? (value? : String → Option String) : List Part → Option String
  | [] => some ""
  | .text s :: rest => (filled? value? rest).map (s ++ ·)
  | .placeholder name :: rest =>
    (value? name).bind fun v => (filled? value? rest).map (v ++ ·)

/-- A text that has been read, last character first, in front of parts. -/
def withRead (seen : List Char) (parts : List Part) : List Part :=
  if seen = [] then parts else .text (String.ofList seen.reverse) :: parts

/-- The parts with texts next to each other joined and empty texts left out, behind a text that
has been read. -/
def merged : List Char → List Part → List Part
  | seen, [] => withRead seen []
  | seen, .text s :: rest => merged (s.toList.reverse ++ seen) rest
  | seen, .placeholder name :: rest => withRead seen (.placeholder name :: merged [] rest)

variable {parts : List Part} {value? : String → Option String} {value : String → String}

/-! ### Values -/

/-- Parts of which all have values are filled in one by one. -/
theorem filled?_eq_some
    (h : ∀ name, .placeholder name ∈ parts → value? name = some (value name)) :
    filled? value? parts = some (String.join (parts.map (Part.filled value))) := by
  induction parts with
  | nil => rfl
  | cons p rest ih =>
    rw [List.map_cons, String.join_cons]
    have hrest := ih fun name hmem => h name (List.mem_cons_of_mem p hmem)
    cases p with
    | text s => rw [filled?, hrest]; rfl
    | placeholder name => rw [filled?, hrest, h name (List.mem_cons_self ..)]; rfl

/-- One value that is missing is enough for nothing to be filled in. -/
theorem filled?_eq_none {name : String} (hmem : .placeholder name ∈ parts)
    (h : value? name = none) : filled? value? parts = none := by
  induction parts with
  | nil => cases hmem
  | cons p rest ih =>
    cases p with
    | text s =>
      have hrest : .placeholder name ∈ rest := (List.mem_cons.1 hmem).resolve_left (by simp)
      rw [filled?, ih hrest]
      rfl
    | placeholder other =>
      rcases List.mem_cons.1 hmem with heq | hrest
      · obtain rfl := Part.placeholder.inj heq
        rw [filled?, h]
        rfl
      · rw [filled?, ih hrest]
        exact Option.bind_eq_none_iff.2 fun _ _ => rfl

/-- Text that has been read stands in front of what the parts are filled in as. -/
theorem filled?_withRead (seen : List Char) (parts : List Part) :
    filled? value? (withRead seen parts) =
      (filled? value? parts).map (String.ofList seen.reverse ++ ·) := by
  by_cases hseen : seen = []
  · subst hseen
    rw [withRead, if_pos rfl, List.reverse_nil, String.ofList_nil]
    simp
  · rw [withRead, if_neg hseen, filled?]

/-- **Joining texts does not change what is filled in.** -/
theorem filled?_merged (seen : List Char) (parts : List Part) :
    filled? value? (merged seen parts) =
      (filled? value? parts).map (String.ofList seen.reverse ++ ·) := by
  fun_induction merged seen parts with
  | case1 seen => exact filled?_withRead seen []
  | case2 seen s rest ih =>
    rw [ih, filled?, Option.map_map]
    congr 1
    funext t
    rw [Function.comp_apply, List.reverse_append, List.reverse_reverse, String.ofList_append,
      String.ofList_toList, String.append_assoc]
  | case3 seen name rest ih =>
    rw [filled?_withRead, filled?, filled?, ih, List.reverse_nil, String.ofList_nil]
    simp only [String.empty_append, Option.map_id_fun']
    rfl

/-- Text that has been read brings no placeholder. -/
theorem placeholder_mem_withRead {name : String} (seen : List Char) (parts : List Part) :
    .placeholder name ∈ withRead seen parts ↔ .placeholder name ∈ parts := by
  by_cases hseen : seen = []
  · rw [withRead, if_pos hseen]
  · rw [withRead, if_neg hseen, List.mem_cons]
    exact or_iff_right (by simp)

/-- Joining texts keeps the placeholders. -/
theorem placeholder_mem_merged {name : String} (seen : List Char) (parts : List Part) :
    .placeholder name ∈ merged seen parts ↔ .placeholder name ∈ parts := by
  fun_induction merged seen parts with
  | case1 seen => exact placeholder_mem_withRead seen []
  | case2 seen s rest ih =>
    rw [ih, List.mem_cons]
    exact (or_iff_right (by simp)).symm
  | case3 seen other rest ih =>
    rw [placeholder_mem_withRead, List.mem_cons, List.mem_cons, ih]

/-! ### Reading -/

/-- Text that has been read is a part of its own. -/
theorem withText_map (seen : List Char) (parts : List Part) :
    withText seen (parts.map Part.piece) = (withRead seen parts).map Part.piece := by
  unfold withText withRead
  split <;> rfl

/-- **The pieces of a body are those of its parts**, with the texts between placeholders joined. -/
theorem scanFrom_body (h : ∀ p ∈ parts, p.IsPlain) (seen : List Char) :
    scanFrom (.text false seen) (body parts).toList = (merged seen parts).map Part.piece := by
  induction parts generalizing seen with
  | nil => exact withText_map seen []
  | cons p rest ih =>
    have hp := h p (List.mem_cons_self ..)
    have hrest := ih fun q hq => h q (List.mem_cons_of_mem p hq)
    have hbody : (body (p :: rest)).toList = p.source.toList ++ (body rest).toList := by
      rw [body, List.map_cons, String.join_cons, String.toList_append]
      rfl
    rw [hbody]
    cases p with
    | text s => rw [Part.source, scanFrom_append_of_plain hp, hrest, merged]
    | placeholder name =>
      have hsource : (Part.placeholder name).source.toList ++ (body rest).toList =
          '\x7b' :: '\x7b' :: ' ' ::
            (name.toList ++ ' ' :: '\x7d' :: '\x7d' :: (body rest).toList) := by
        simp [Part.source]
      rw [hsource, scanFrom_placeholder hp.identifier, hrest, String.ofList_toList, merged,
        ← withText_map]
      rfl

/-- The statements of parts are those of the parts one by one. -/
theorem Stmt.addPieces_map
    (h : ∀ name, .placeholder name ∈ parts → isKeyword name = false) (done : List Stmt) :
    addPieces ⟨[], done⟩ (parts.map Part.piece) = .ok (done.reverse ++ parts.map Part.stmt) := by
  induction parts generalizing done with
  | nil => rw [List.map_nil, List.map_nil, List.append_nil]; rfl
  | cons p rest ih =>
    have hstep : addPiece ⟨[], done⟩ p.piece = .ok ⟨[], p.stmt :: done⟩ := by
      cases p with
      | text s => rfl
      | placeholder name => exact addPiece_placeholder (h name (List.mem_cons_self ..)) done
    rw [List.map_cons, addPieces, hstep]
    dsimp only
    rw [ih fun name hmem => h name (List.mem_cons_of_mem p hmem), List.reverse_cons,
      List.append_assoc]
    rfl

/-! ### Writing -/

/-- What an argument is written as. -/
def argumentText? (args : SortedMap Json.Value) (name : String) : Option String :=
  (args.get? name).map fun v => (Value.ofJson v.json).display

/-- A value of JSON is there. -/
theorem Value.present_ofJson (j : Json) : (Value.ofJson j).present = .ok (Value.ofJson j) := by
  cases j with
  | number n => cases n <;> rfl
  | _ => rfl

/-- The state behind a text that has been written. -/
def Rendering.wrote (r : Rendering) (s : String) : Rendering :=
  { r with written := r.written ++ s }

/-- Texts are written one after the other. -/
theorem Rendering.wrote_wrote (r : Rendering) (s t : String) :
    (r.wrote s).wrote t = r.wrote (s ++ t) := by
  simp only [wrote, String.append_assoc]

/-- A text is written as it is. -/
theorem Stmt.run_text (s : String) (r : Rendering) :
    (Stmt.run (.text s)).run r = .ok ((), r.wrote s) := by
  rw [Stmt.run]
  rfl

/-- **A variable outside of loops and blocks is an argument**, and a failure if there is none. -/
theorem Stmt.run_var {name : String} (h : name ∉ functionNames) {r : Rendering}
    (hframes : r.frames = []) :
    (Stmt.run (.output (.var name))).run r =
      match argumentText? r.arguments name with
      | some s => .ok ((), r.wrote s)
      | none => .error .undefinedValue := by
  have hlook : r.look? name = (r.arguments.get? name).map fun v => .ofJson v.json := by
    have hfunction : Function.ofName? name = none := by
      unfold Function.ofName?
      split
      · exact absurd (by decide) h
      · rfl
    rw [Rendering.look?, hframes, hfunction]
    rcases r.arguments.get? name with _ | v <;> rfl
  have heval : (Expr.eval (.var name)).run r =
      .ok (((r.arguments.get? name).map fun v => .ofJson v.json).getD Value.missing, r) := by
    rw [Expr.eval, ← hlook]
    rfl
  rw [Stmt.run]
  · rw [StateT.run_bind, heval]
    rcases hget : r.arguments.get? name with _ | v
    · rw [argumentText?, hget]
      rfl
    · rw [argumentText?, hget]
      show (liftM (Value.ofJson v.json).present : Step Value).run r >>= _ = _
      rw [Value.present_ofJson]
      rfl
  -- a variable is no call of a loop
  all_goals
    intros
    contradiction

/-- **Statements of parts write what the parts are filled in with.** -/
theorem runAll_map (h : ∀ name, .placeholder name ∈ parts → name ∉ functionNames)
    {r : Rendering} (hframes : r.frames = []) :
    (runAll (parts.map Part.stmt)).run r =
      match filled? (argumentText? r.arguments) parts with
      | some s => .ok ((), r.wrote s)
      | none => .error .undefinedValue := by
  induction parts generalizing r with
  | nil =>
    rw [List.map_nil, runAll, filled?]
    simp only [Rendering.wrote, String.append_empty]
    rfl
  | cons p rest ih =>
    have hafter (s : String) : (runAll (rest.map Part.stmt)).run (r.wrote s) =
        match (filled? (argumentText? r.arguments) rest).map (s ++ ·) with
        | some t => .ok ((), r.wrote t)
        | none => .error .undefinedValue := by
      rw [ih (fun name hmem => h name (List.mem_cons_of_mem p hmem)) (r := r.wrote s) hframes]
      show (match filled? (argumentText? r.arguments) rest with
        | some t => Except.ok ((), (r.wrote s).wrote t)
        | none => Except.error Failure.undefinedValue) = _
      simp only [r.wrote_wrote s]
      rcases filled? (argumentText? r.arguments) rest with _ | t <;> rfl
    rw [List.map_cons, runAll, StateT.run_bind]
    cases p with
    | text s =>
      rw [Part.stmt, Stmt.run_text, filled?]
      exact hafter s
    | placeholder name =>
      rw [Part.stmt, Stmt.run_var (h name (List.mem_cons_self ..)) hframes, filled?]
      rcases argumentText? r.arguments name with _ | s
      · rfl
      · exact hafter s

/-- **A body of parts is rendered as its parts filled in**, and fails if an argument is missing. -/
theorem render_body (h : ∀ p ∈ parts, p.IsPlain) (args : SortedMap Json.Value) :
    render (body parts) args =
      match filled? (argumentText? args) parts with
      | some s => .ok s
      | none => .error .undefinedValue := by
  have hvariable {name : String} (hmem : .placeholder name ∈ merged [] parts) :
      IsVariable name :=
    h (.placeholder name) ((placeholder_mem_merged [] parts).1 hmem)
  have hstatements : Stmt.ofPieces (Piece.scan (body parts)) =
      .ok ((merged [] parts).map Part.stmt) := by
    rw [Piece.scan, scanFrom_body h]
    exact Stmt.addPieces_map (fun name hmem => (hvariable hmem).no_keyword) []
  have hrun := runAll_map (fun name hmem => (hvariable hmem).no_function)
    (r := .start args) rfl
  rw [filled?_merged, List.reverse_nil, String.ofList_nil] at hrun
  simp only [String.empty_append, Option.map_id_fun', id] at hrun
  rw [render, hstatements]
  dsimp only
  rw [hrun]
  rcases hfilled : filled? (argumentText? (Rendering.start args).arguments) parts with _ | s
  · rw [show filled? (argumentText? args) parts = none from hfilled]
  · rw [show filled? (argumentText? args) parts = some s from hfilled]
    exact congrArg Except.ok (String.empty_append)

end Template

open Template

/-- A rule body of parts is rendered as its parts filled in. -/
theorem renderBody_encodeUtf8_body {parts : List Part} (h : ∀ p ∈ parts, p.IsPlain)
    (args : SortedMap Json.Value) :
    renderBody (Text.encodeUtf8 (body parts)) args =
      match filled? (argumentText? args) parts with
      | some s => .ok s
      | none => .error (.template .undefinedValue) := by
  rw [renderBody, Text.decodeUtf8_eq_ok_iff.2 rfl]
  dsimp only
  rw [render_body h]
  rcases filled? (argumentText? args) parts with _ | s <;> rfl

/-- A rule body fails as ill-formed exactly if it is the UTF-8 of no text. -/
theorem renderBody_encoding_iff (bytes : List UInt8) (args : SortedMap Json.Value) :
    (∃ e, renderBody bytes args = .error (.encoding e)) ↔
      ∀ s, bytes ≠ Text.encodeUtf8 s := by
  rw [renderBody]
  rcases hread : Text.decodeUtf8 bytes with e | s
  · refine iff_of_true ⟨e, rfl⟩ fun s hs => ?_
    rw [Text.decodeUtf8_eq_ok_iff.2 hs] at hread
    cases hread
  · refine iff_of_false ?_ fun hnone => hnone s (Text.decodeUtf8_eq_ok_iff.1 hread)
    rintro ⟨e, he⟩
    dsimp only at he
    rcases hrender : render s args with f | text
    · rw [hrender] at he
      cases he
    · rw [hrender] at he
      cases he

/-- **Rule bodies are filled in.** A rule body of any texts and placeholders, in any order, is
rendered exactly if every placeholder names an argument. If these are texts, each one stands as it
is in the place of its placeholder, and so does the text between. A missing argument is a failure
of its own, whatever the others are, and so are bytes that are the UTF-8 of no text. -/
theorem renderBody_fills_in {parts : List Part} (h : ∀ p ∈ parts, p.IsPlain)
    (args : SortedMap Json.Value) :
    ((∃ text, renderBody (Text.encodeUtf8 (body parts)) args = .ok text) ↔
      ∀ name, .placeholder name ∈ parts → args.get? name ≠ none) ∧
    (∀ value : String → String,
      (∀ name, .placeholder name ∈ parts →
        (args.get? name).map Json.Value.json = some (.string (value name))) →
      renderBody (Text.encodeUtf8 (body parts)) args =
        .ok (String.join (parts.map (Part.filled value)))) ∧
    (∀ name, .placeholder name ∈ parts → args.get? name = none →
      renderBody (Text.encodeUtf8 (body parts)) args = .error (.template .undefinedValue)) ∧
    ∀ bytes : List UInt8, (∃ e, renderBody bytes args = .error (.encoding e)) ↔
      ∀ s, bytes ≠ Text.encodeUtf8 s := by
  have hmissing (name : String) (hmem : .placeholder name ∈ parts)
      (hnone : args.get? name = none) :
      renderBody (Text.encodeUtf8 (body parts)) args = .error (.template .undefinedValue) := by
    have htext : argumentText? args name = none := by rw [argumentText?, hnone, Option.map_none]
    rw [renderBody_encodeUtf8_body h, filled?_eq_none hmem htext]
  refine ⟨⟨?_, fun hall => ?_⟩, fun value hvalue => ?_, hmissing,
    fun bytes => renderBody_encoding_iff bytes args⟩
  · rintro ⟨text, hok⟩ name hmem hnone
    rw [hmissing name hmem hnone] at hok
    cases hok
  · have htext : ∀ name, .placeholder name ∈ parts →
        argumentText? args name = some ((argumentText? args name).getD "") := by
      intro name hmem
      rcases hget : args.get? name with _ | v
      · exact absurd hget (hall name hmem)
      · rw [argumentText?, hget]
        rfl
    rw [renderBody_encodeUtf8_body h, filled?_eq_some htext]
    exact ⟨_, rfl⟩
  · have htext : ∀ name, .placeholder name ∈ parts →
        argumentText? args name = some (value name) := by
      intro name hmem
      obtain ⟨v, hget, hjson⟩ := Option.map_eq_some_iff.1 (hvalue name hmem)
      rw [argumentText?, hget, Option.map_some, hjson]
      rfl
    rw [renderBody_encodeUtf8_body h, filled?_eq_some htext]

namespace Sample

/-- A body with braces that begin no tag, a placeholder that stands twice, and line ends of both
kinds. -/
def parts : List Part :=
  [.text "package p\r\n", .placeholder "name", .text "[x] \x7b\n  x := 'a \x7d\x7d %\x7d",
    .placeholder "_kind9", .placeholder "name", .text "'\n\x7d\n"]

/-- Arguments of which one looks like a placeholder and the other one like markup. -/
def value (name : String) : String :=
  if name = "name" then "\x7b\x7b name \x7d\x7d" else "<b>&\"\n"

/-- The arguments of the placeholders. -/
def args : SortedMap Json.Value :=
  .ofList [("name", .ofJson (.string (value "name"))),
    ("_kind9", .ofJson (.string (value "_kind9")))]

/-- The hypotheses of `renderBody_fills_in` are satisfiable: markup and delimiters in arguments stay
as they are, and nothing is written without the arguments. -/
theorem renderBody_fills_in_sample :
    (∀ p ∈ parts, p.IsPlain) ∧
      renderBody (Text.encodeUtf8 (body parts)) args =
        .ok ("package p\r\n\x7b\x7b name \x7d\x7d[x] \x7b\n  x := 'a \x7d\x7d %\x7d" ++
          "<b>&\"\n\x7b\x7b name \x7d\x7d'\n\x7d\n") ∧
      renderBody (Text.encodeUtf8 (body parts)) .empty = .error (.template .undefinedValue) := by
  have hplain : ∀ p ∈ parts, p.IsPlain := by decide
  refine ⟨hplain, ?_, ?_⟩
  · rw [(renderBody_fills_in hplain args).2.1 value]
    · decide
    · intro name hmem
      simp only [parts, List.mem_cons, reduceCtorEq, Part.placeholder.injEq, List.not_mem_nil,
        or_self, or_false, false_or] at hmem
      rcases hmem with rfl | rfl | rfl <;> rfl
  · exact (renderBody_fills_in hplain .empty).2.2.1 "name" (by decide) rfl

end Sample

end Rulebook
