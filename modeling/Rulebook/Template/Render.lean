/-
# Rendering

Specification §4.2 (Rule Repository Loader) and §9 (Design Notes).

A template is rendered with arguments. While it runs, names are looked up in the frames
that loops and `with` blocks have opened, the innermost one first, then among the arguments
and last among the functions; in a loop the name `loop` stands for its current round. A
name that is bound in a round is gone behind it.

An output tag writes its value as it is, without escapes. A value that is not there can be
neither written nor used, so a template without any of its arguments fails instead of
leaving gaps.
-/

import Rulebook.Template.Statement
import Rulebook.Template.Filter
import Rulebook.Template.Operation
import Rulebook.Template.Range
import Rulebook.Text.Utf8

namespace Rulebook
namespace Template

/-- The names that a round of a loop or a block has bound, the latest binding first. -/
structure Frame where
  names : List (String × Value)
  round : Option Value

/-- A template that is being rendered. -/
structure Rendering where
  /-- The frames, the innermost one first. -/
  frames : List Frame
  arguments : SortedMap Json.Value
  /-- What has been written. -/
  written : String
  /-- The number of loops that have begun. -/
  loops : Nat
  /-- The next mark of a container. -/
  nextMark : Nat
  /-- The values that were compared last in a loop, the latest first. -/
  watched : List (Nat × List Value)

namespace Rendering

/-- Nothing has been written. -/
def start (arguments : SortedMap Json.Value) : Rendering :=
  { frames := [], arguments, written := "", loops := 0, nextMark := 0, watched := [] }

end Rendering

/-- The value of a name in a frame. -/
def Frame.look? (f : Frame) (name : String) : Option Value :=
  match f.names.lookup name with
  | some v => some v
  | none => if name = "loop" then f.round else none

/-- The value of a name in frames. -/
def lookFrames? (name : String) : List Frame → Option Value
  | [] => none
  | f :: rest =>
    match f.look? name with
    | some v => some v
    | none => lookFrames? name rest

/-- The value of a name. -/
def Rendering.look? (r : Rendering) (name : String) : Option Value :=
  match lookFrames? name r.frames with
  | some v => some v
  | none =>
    match r.arguments.get? name with
    | some v => some (.ofJson v.json)
    | none => (Function.ofName? name).map .function

/-- A step of rendering. -/
abbrev Step := StateT Rendering (Except Failure)

/-- Writes a text. -/
def write (s : String) : Step Unit := modify fun r => { r with written := r.written ++ s }

/-- Binds a name in the innermost frame. -/
def bindName (name : String) (v : Value) : Step Unit :=
  modify fun r =>
    match r.frames with
    | [] => { r with frames := [⟨[(name, v)], none⟩] }
    | f :: rest => { r with frames := { f with names := (name, v) :: f.names } :: rest }

/-- A value that is about to have a name. -/
def marked (v : Value) : Step Value :=
  modifyGet fun r =>
    let (v, nextMark) := v.marked.run r.nextMark
    (v, { r with nextMark })

/-! ### Rounds of loops -/

/-- The round with `index` rounds before it, of so many if their number is known. If it is
not, no round is known to be the last one. -/
def roundOf (loop index : Nat) (count : Option Nat) (previous next : Option Value) : Value :=
  let orMissing (v : Option Value) : Value := v.getD Value.missing
  let left := count.map (· - index)
  .round loop index count <|
    [ ("index0", .ofNat index),
      ("index", .ofNat (index + 1)),
      ("length", orMissing (count.map .ofNat)),
      ("revindex", orMissing (left.map .ofNat)),
      ("revindex0", orMissing (left.map fun n => .ofNat (n - 1))),
      ("first", .bool (index == 0)),
      ("last", .bool (count.any fun n => index + 1 == n)),
      ("depth", .ofNat 1),
      ("depth0", .ofNat 0),
      ("previtem", orMissing previous),
      ("nextitem", orMissing next) ].map fun e => (.text e.1, e.2)

/-- The argument whose turn it is in a round. -/
def turn (index : Nat) (args : List Value) : Value :=
  (args[index % args.length]?).getD Value.missing

/-- The arguments differ from those that were compared last in the loop. -/
def changed (loop : Nat) (args : List Value) : Step Value := do
  let r ← get
  match r.watched.lookup loop with
  | some old =>
    if Value.sameItems old args then return .bool false
    set { r with watched := (loop, args) :: r.watched.filter (·.1 != loop) }
    return .bool true
  | none =>
    set { r with watched := (loop, args) :: r.watched }
    return .bool true

/-! ### Calls -/

/-- The arguments of a call; those with names are one value behind the others. -/
def given (places : List Value) (named : List (Value × Value)) : List Value :=
  if named.isEmpty then places else places ++ [.named none (Value.sortEntries named)]

/-- Calls a name. There is never a block around a template that `super` could stand for. -/
def callName (name : String) (args : List Value) : Step Value := do
  if name = "super" then throw .invalidOperation
  match (← get).look? name with
  | some v => v.call args
  | none => throw .unknownFunction

/-- Repeats the loop around for an argument, which no loop allows. -/
def repeatLoop : Step Unit := do
  throw (if (← get).frames.any (·.round.isSome) then .invalidOperation else .unknownFunction)

/-- Calls a method of a value: one of a round, or a part of a map. -/
def callMethod (v : Value) (name : String) (args : List Value) : Step Value := do
  match v, name with
  | .round _ index _ _, "cycle" => return turn index args
  | .round loop _ _ _, "changed" => changed loop args
  | v, name =>
    match v.attr? name with
    | some f => f.call args
    | none => throw .unknownMethod

/-- The filter of a name, applied to a value. -/
def applyFilter (v : Value) (name : String) (args : List Value) : Except Failure Value :=
  match Filter.ofName? name with
  | some f => f v args
  | none => .error .unknownFilter

/-- The test of a name, asked of a value. -/
def askTest (v : Value) (name : String) (args : List Value) : Except Failure Value :=
  match Test.ofName? name with
  | some t => (t v args).map .bool
  | none => .error .unknownTest

/-! ### Expressions -/

mutual

/-- The value of an expression. -/
def Expr.eval : Expr → Step Value
  | .const v => return v
  | .var name => return ((← get).look? name).getD Value.missing
  | .list items => return .ofItems (← evalAll items)
  | .map entries => return .ofEntries (Value.sortEntries (← evalEntries entries))
  | .attr e name => do
    let v ← e.eval
    v.orMissing (v.attr? name)
  | .item e key => do
    let v ← e.eval
    let k ← key.eval
    v.orMissing (v.item? k)
  | .slice e start stop step => do
    let v ← e.eval
    let start ← evalOr start
    let stop ← evalOr stop
    let step ← evalOr step
    v.slice start stop step
  | .negate e => do (← e.eval).negate
  | .not e => do return .bool !(← (← e.eval).decides)
  | .binary op a b => do
    match op with
    | .or =>
      let v ← a.eval
      if ← v.decides then return v else b.eval
    | .and =>
      match (Expr.binary .and a b).constant? with
      | some v => return v
      | none =>
        let v ← a.eval
        if ← v.decides then b.eval else return v
    | op =>
      let v ← a.eval
      op.apply v (← b.eval)
  | .chain first rest => do evalChain (← first.eval) rest
  | .choose test yes no => do
    if ← (← test.eval).decides then yes.eval
    else
      match no with
      | some no => no.eval
      | none => return .undefined true
  | .filter e name args named => do
    let v ← e.eval
    applyFilter v name (given (← evalAll args) (← evalNamed named))
  | .test e name args named => do
    let v ← e.eval
    askTest v name (given (← evalAll args) (← evalNamed named))
  | .call name args named => do callName name (given (← evalAll args) (← evalNamed named))
  | .method (.var "self") _ _ _ => throw .unknownBlock
  | .method e name args named => do
    let v ← e.eval
    callMethod v name (given (← evalAll args) (← evalNamed named))
  | .apply e args named => do
    let v ← e.eval
    v.call (given (← evalAll args) (← evalNamed named))

/-- The values of expressions. -/
def evalAll : List Expr → Step (List Value)
  | [] => return []
  | e :: rest => return (← e.eval) :: (← evalAll rest)

/-- The values of entries. -/
def evalEntries : List (Expr × Expr) → Step (List (Value × Value))
  | [] => return []
  | (k, v) :: rest => return (← k.eval, ← v.eval) :: (← evalEntries rest)

/-- The values of arguments with names. -/
def evalNamed : List (String × Expr) → Step (List (Value × Value))
  | [] => return []
  | (name, e) :: rest => return (.text name, ← e.eval) :: (← evalNamed rest)

/-- Each operand stands to the one before it as an operator says; those behind the first
one that does not are left alone. -/
def evalChain : Value → List (Operator × Expr) → Step Value
  | _, [] => return .bool true
  | v, (op, e) :: rest => do
    let w ← e.eval
    if (← op.apply v w).isTrue then evalChain w rest else return .bool false

/-- The value of an expression that may be left out. -/
def evalOr : Option Expr → Step Value
  | some e => e.eval
  | none => return .none

end

/-! ### Bindings -/

mutual

/-- Binds a target to a value. -/
def Target.bind : Target → Value → Step Unit
  | .name n, v => bindName n v
  | .part e _, _ => do
    let _ ← e.eval
    throw .invalidOperation
  | .parts targets, v => do
    if v.memberCount? = some targets.length then bindAll targets (v.members?.getD [])
    else throw .cannotUnpack

/-- Binds targets to as many values. -/
def bindAll : List Target → List Value → Step Unit
  | t :: ts, v :: vs => do
    t.bind v
    bindAll ts vs
  | _, _ => return ()

end

/-! ### Statements -/

/-- Runs steps inside a new frame. -/
def inFrame {α : Type} (s : Step α) : Step α := do
  modify fun r => { r with frames := ⟨[], none⟩ :: r.frames }
  let a ← s
  modify fun r => { r with frames := r.frames.drop 1 }
  return a

/-- Begins a round in the innermost frame, where nothing is bound yet. -/
def beginRound (round : Value) : Step Unit :=
  modify fun r => { r with frames := ⟨[], some round⟩ :: r.frames.drop 1 }

/-- Begins a loop and gives the number of loops before it. -/
def beginLoop : Step Nat := modifyGet fun r => (r.loops, { r with loops := r.loops + 1 })

/-- The items for which a condition holds when a target is bound to them. -/
def holding (target : Target) (condition : Step Value) : List Value → Step (List Value)
  | [] => return []
  | v :: rest => do
    target.bind v
    let keep ← (← condition).decides
    let others ← holding target condition rest
    return if keep then v :: others else others

/-- The rounds of a loop. -/
def rounds (target : Target) (body : Step Unit) (loop : Nat) (count : Option Nat) :
    Nat → Option Value → List Value → Step Unit
  | _, _, [] => return ()
  | index, previous, v :: rest => do
    beginRound (roundOf loop index count previous rest.head?)
    target.bind v
    body
    rounds target body loop count (index + 1) (some v) rest

/-- The number of rounds of a loop, which for the characters of a text is not known. -/
def roundCount (source : Value) (items : List Value) : Option Nat :=
  match source with
  | .text _ => none
  | _ => some items.length

/-- The text that steps write, which is taken out of what has been written. -/
def captured (s : Step Unit) : Step String := do
  let before := (← get).written
  modify fun r => { r with written := "" }
  s
  let text := (← get).written
  modify fun r => { r with written := before }
  return text

/-- Applies filters one after the other. -/
def applyFilters (v : Value) : List FilterUse → Step Value
  | [] => return v
  | f :: rest => do
    let args := given (← evalAll f.args) (← evalNamed f.named)
    applyFilters (← applyFilter v f.name args) rest

/-- Binds targets one after the other; a later value may use an earlier target. -/
def bindEach : List (Target × Expr) → Step Unit
  | [] => return ()
  | (target, e) :: rest => do
    target.bind (← marked (← e.eval))
    bindEach rest

/-- There are no templates to incorporate. A function stands for none at all. -/
def incorporate (name : Value) (ignoreMissing : Bool) : Except Failure Unit :=
  let names := match name with
    | .function _ => []
    | name => name.members?.getD [name]
  if names.any (fun | .text _ => false | _ => true) then .error .invalidOperation
  else if names.isEmpty || ignoreMissing then .ok ()
  else .error .templateNotFound

mutual

/-- Runs a statement. -/
def Stmt.run : Stmt → Step Unit
  | .text s => write s
  | .output e => do
    match e with
    | .call "loop" [arg] [] => do
      let _ ← arg.eval
      repeatLoop
    | .call "loop" [] [(_, arg)] => do
      let _ ← arg.eval
      repeatLoop
    | e => write (← (← e.eval).present).display
  | .choose test yes no => do
    if ← (← test.eval).decides then runAll yes else runAll no
  | .loop target source condition body otherwise => do
    let v ← marked (← source.eval)
    let items ← v.iterate
    let (items, count) ← match condition with
      | some c => do
        let items ← inFrame (holding target c.eval items)
        pure (items, some items.length)
      | none => pure (items, roundCount v items)
    if items.isEmpty then runAll otherwise
    else
      let loop ← beginLoop
      inFrame (rounds target (runAll body) loop count 0 none items)
  | .set target e => do target.bind (← marked (← e.eval))
  | .capture target filters body => do
    let text ← captured (runAll body)
    target.bind (← applyFilters (.text text) filters)
  | .scope bindings body =>
    inFrame do
      bindEach bindings
      runAll body
  | .incorporate name ignoreMissing => do incorporate (← name.eval) ignoreMissing

/-- Runs statements one after the other. -/
def runAll : List Stmt → Step Unit
  | [] => return ()
  | s :: rest => do
    s.run
    runAll rest

end

/-- The text of a template with arguments. -/
def render (template : String) (arguments : SortedMap Json.Value) : Except Failure String :=
  match Stmt.ofPieces (Piece.scan template) with
  | .error e => .error e
  | .ok statements =>
    match (runAll statements).run (.start arguments) with
    | .error e => .error e
    | .ok (_, r) => .ok r.written

end Template

/-- Why a rule body cannot be rendered. -/
inductive RenderError where
  | encoding (error : Text.Utf8Error)
  | template (failure : Template.Failure)
deriving DecidableEq, Repr

/-- The wording of a failure to render. -/
def RenderError.message : RenderError → String
  | encoding e => "rule body is not valid UTF-8: " ++ e.message
  | template f => "template rendering failed: " ++ f.message

/-- The rendered text of a rule body. -/
def renderBody (body : List UInt8) (arguments : SortedMap Json.Value) :
    Except RenderError String :=
  match Text.decodeUtf8 body with
  | .error e => .error (.encoding e)
  | .ok template =>
    match Template.render template arguments with
    | .error f => .error (.template f)
    | .ok text => .ok text

end Rulebook
