/-
# Statements

A template as a list of statements. Pieces are taken one after the other; the blocks that
are open stand on a stack, each with the statements that belong to its current part. A tag
opens a block, goes on to the block's next part, closes it, or is a statement by itself.

An `elif` is an `if` in the alternative of the block, which the same `endif` closes.
-/

import Rulebook.Template.Expression

namespace Rulebook
namespace Template

/-- What a value is bound to: a name, or several targets for its parts. A part of a value
may be written, too, but nothing can be bound to it. -/
inductive Target where
  | name (n : String)
  | part (e : Expr) (n : String)
  | parts (targets : List Target)

/-- A filter with its arguments. -/
structure FilterUse where
  name : String
  args : List Expr
  named : List (String × Expr)

/-- A statement. -/
inductive Stmt where
  | text (s : String)
  | output (e : Expr)
  | choose (test : Expr) (yes no : List Stmt)
  | loop (target : Target) (source : Expr) (condition : Option Expr) (body otherwise : List Stmt)
  | set (target : Target) (e : Expr)
  | capture (target : Target) (filters : List FilterUse) (body : List Stmt)
  | scope (bindings : List (Target × Expr)) (body : List Stmt)
  | incorporate (name : Expr) (ignoreMissing : Bool)

/-- A block that is open, with what its statements do not hold. -/
inductive Block where
  /-- The first part of a choice; `chained` if it is the alternative of the block below. -/
  | yes (test : Expr) (chained : Bool)
  | no (test : Expr) (yes : List Stmt) (chained : Bool)
  | loop (target : Target) (source : Expr) (condition : Option Expr)
  | otherwise (target : Target) (source : Expr) (condition : Option Expr) (body : List Stmt)
  | capture (target : Target) (filters : List FilterUse)
  | scope (bindings : List (Target × Expr))

/-- The open blocks, the innermost one first, each with the statements of the part around
it, and the statements of the innermost part. The latest statement comes first. -/
structure Outline where
  blocks : List (Block × List Stmt)
  body : List Stmt

namespace Outline

/-- Nothing has been read. -/
def start : Outline := ⟨[], []⟩

/-- A block that is nested in the one around it; an alternative of that is not. -/
def isNested : Block × List Stmt → Bool
  | (.yes _ chained, _) => !chained
  | (.no _ _ chained, _) => !chained
  | _ => true

/-- How deep what follows can be nested. -/
def room (o : Outline) : Nat := maxDepth - o.blocks.countP isNested

/-- One more statement. -/
def add (o : Outline) (s : Stmt) : Outline := { o with body := s :: o.body }

/-- A block begins. -/
def push (o : Outline) (b : Block) : Outline := ⟨(b, o.body) :: o.blocks, []⟩

/-- The innermost block is a statement of the part around it. -/
def close (s : Stmt) (blocks : List (Block × List Stmt)) (around : List Stmt) : Outline :=
  ⟨blocks, s :: around⟩

/-- Closes choices up to the one that is no alternative. -/
def closeChoices : List (Block × List Stmt) → List Stmt → Except Failure Outline
  | (.yes test chained, around) :: blocks, body =>
    let s := Stmt.choose test body.reverse []
    if chained then closeChoices blocks (s :: around) else .ok (close s blocks around)
  | (.no test yes chained, around) :: blocks, body =>
    let s := Stmt.choose test yes body.reverse
    if chained then closeChoices blocks (s :: around) else .ok (close s blocks around)
  | _, _ => .error .malformed

end Outline

/-- Names that nothing can be bound to. -/
def reservedNames : List String :=
  ["true", "True", "false", "False", "none", "None", "loop", "self"]

namespace Target

/-- A name that something can be bound to. -/
def readName : Reader String := do
  let n ← Reader.name
  if reservedNames.contains n then throw .malformed
  return n

/-- Names of parts behind an expression, at most so many. -/
def readParts (e : Expr) : Nat → Reader Target
  | 0 => Reader.refuse
  | fuel + 1 => do
    let n ← Reader.name
    if ← Reader.sign? .dot then readParts (.attr e n) fuel else return .part e n

/-- Some token ends the targets of a list. -/
def atEnd : List Token → Bool
  | [] => true
  | .sign .closeParen :: _ => true
  | .name "in" :: _ => true
  | _ => false

/-- One target, or several with commas between them; `dotted` allows parts. -/
def read (dotted : Bool) : Nat → Reader Target
  | 0 => Reader.refuse
  | fuel + 1 => do
    let (targets, several) ← more fuel
    match targets, several with
    | [t], false => return t
    | targets, _ => return .parts targets
where
  /-- Targets up to the first one without a comma behind it, and whether there was one. -/
  more : Nat → Reader (List Target × Bool)
    | 0 => Reader.refuse
    | fuel + 1 => do
      if atEnd (← get) then return ([], false)
      let t ← if ← Reader.sign? .openParen then bracketed fuel else single fuel
      if ← Reader.sign? .comma then return (t :: (← more fuel).1, true)
      return ([t], false)
  /-- Targets up to a closing bracket. -/
  bracketed : Nat → Reader Target
    | 0 => Reader.refuse
    | fuel + 1 => do
      let (targets, several) ← more fuel
      Reader.sign .closeParen
      match targets, several with
      | [t], false => return t
      | targets, _ => return .parts targets
  /-- A name, or a part. -/
  single (fuel : Nat) : Reader Target := do
    let n ← readName
    if dotted && (← Reader.sign? .dot) then readParts (.var n) fuel else return .name n

/-- The number of descents that tokens allow. -/
def fuelFor (tokens : List Token) : Nat := 2 * tokens.length + 4

/-- One target, or several with commas between them, read from the front of tokens. -/
def take (dotted : Bool) : Reader Target := do read dotted (fuelFor (← get))

/-- One target, or several in brackets. -/
def takeOne : Reader Target := do
  if ← Reader.sign? .openParen then
    let t ← take false
    Reader.sign .closeParen
    return t
  return .name (← readName)

end Target

namespace Stmt

/-- The tag has no more tokens. -/
def done : Reader Unit := do if !(← get).isEmpty then Reader.refuse

/-- Words about the context of an incorporated template, which change nothing. -/
def skipContextWords : Reader Unit := do
  if (← Reader.word? "without") || (← Reader.word? "with") then Reader.word "context"

/-- The rest of a tag that incorporates a template. -/
def takeInclude (room : Nat) : Reader Stmt := do
  let name ← Expr.take room
  skipContextWords
  let ignoreMissing ← Reader.word? "ignore"
  if ignoreMissing then
    Reader.word "missing"
    skipContextWords
  return .incorporate name ignoreMissing

/-- The rest of a tag that opens a loop. -/
def takeLoop (room : Nat) : Reader Block := do
  let target ← Target.take false
  Reader.word "in"
  let source ← Expr.takePlain room
  let condition ← if ← Reader.word? "if" then some <$> Expr.take room else pure none
  return .loop target source condition

/-- Bindings with commas between them, at most so many. -/
def takeBindings (room : Nat) : Nat → Reader (List (Target × Expr))
  | 0 => Reader.refuse
  | n + 1 => do
    let target ← Target.takeOne
    Reader.sign .assign
    let e ← Expr.take room
    if ← Reader.sign? .comma then return (target, e) :: (← takeBindings room n)
    else return [(target, e)]

/-- The rest of a tag that opens a block with bindings, if there are any. -/
def takeScope (room : Nat) : Reader Block := do
  if (← get).isEmpty then return .scope []
  return .scope (← takeBindings room (← get).length)

/-- A statement that sets names, or the block that captures text for them. -/
def takeSet (room : Nat) (o : Outline) : Reader Outline := do
  let target ← Target.take true
  if (← get).isEmpty then return o.push (.capture target [])
  if ← Reader.sign? .pipe then
    let filters := (← Expr.takeFilters room).map fun (n, args, named) => ⟨n, args, named⟩
    return o.push (.capture target filters)
  Reader.sign .assign
  return o.add (.set target (← Expr.takeRow room))

/-- A statement tag. -/
def takeTag (o : Outline) : Reader Outline := do
  let keyword ← Reader.name
  match keyword, o.blocks with
  | "elif", (.yes test chained, around) :: blocks =>
    let next : Outline := ⟨(.no test o.body.reverse chained, around) :: blocks, []⟩
    return next.push (.yes (← Expr.takePlain o.room) true)
  | "else", (.yes test chained, around) :: blocks =>
    return ⟨(.no test o.body.reverse chained, around) :: blocks, []⟩
  | "endif", (.yes _ _, _) :: _ => Outline.closeChoices o.blocks o.body
  | "endif", (.no _ _ _, _) :: _ => Outline.closeChoices o.blocks o.body
  | "else", (.loop target source condition, around) :: blocks =>
    return ⟨(.otherwise target source condition o.body.reverse, around) :: blocks, []⟩
  | "endfor", (.loop target source condition, around) :: blocks =>
    return .close (.loop target source condition o.body.reverse []) blocks around
  | "endfor", (.otherwise target source condition body, around) :: blocks =>
    return .close (.loop target source condition body o.body.reverse) blocks around
  | "endset", (.capture target filters, around) :: blocks =>
    return .close (.capture target filters o.body.reverse) blocks around
  | "endwith", (.scope bindings, around) :: blocks =>
    return .close (.scope bindings o.body.reverse) blocks around
  | keyword, _ =>
    let room ← Reader.descend o.room
    match keyword with
    | "if" => return o.push (.yes (← Expr.takePlain room) false)
    | "for" => return o.push (← takeLoop room)
    | "set" => takeSet room o
    | "with" => return o.push (← takeScope room)
    | "include" => return o.add (← takeInclude room)
    | _ => throw .malformed

/-- Everything in a tag. -/
def whole {α : Type} (r : Reader α) (tokens : List Token) : Except Failure α :=
  match (do let a ← r; done; return a : Reader α).run tokens with
  | .ok (a, _) => .ok a
  | .error e => .error e

/-- One more piece. -/
def addPiece (o : Outline) : Piece → Except Failure Outline
  | .text s => .ok (o.add (.text s))
  | .tag .output tokens =>
    match whole (Expr.take o.room) tokens with
    | .ok e => .ok (o.add (.output e))
    | .error e => .error e
  | .tag .statement tokens => whole (takeTag o) tokens
  | .endless => .error .malformed

/-- Pieces behind what has been read. -/
def addPieces (o : Outline) : List Piece → Except Failure (List Stmt)
  | [] => if o.blocks.isEmpty then .ok o.body.reverse else .error .malformed
  | p :: rest =>
    match addPiece o p with
    | .ok o => addPieces o rest
    | .error e => .error e

/-- The statements of a template. -/
def ofPieces (pieces : List Piece) : Except Failure (List Stmt) := addPieces .start pieces

end Stmt

end Template
end Rulebook
