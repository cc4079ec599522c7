/-
# Expressions

The expressions inside tags, and how they are read from tokens. From the loosest to the
tightest binding:

| level | operators |
| --- | --- |
| | `a if test else b` |
| 0 | `or` |
| 1 | `and` |
| 2 | `not` |
| 3 | `==` `!=` `<` `<=` `>` `>=` `in` `not in` |
| 4 | `+` `-` |
| 5 | `~` |
| 6 | `*` `/` `//` `%` |
| 7 | `**` |
| 8 | parts `a.b` `a[b]` `a(b)`, then `a|f` `a is t`; a sign belongs to what stands before them |

All of them group to the left, but those of level 3 form a chain in which every operand is
compared with the next one. Literal texts next to each other are one text.

Reading is by recursive descent; the number of descents is bounded by the number of tokens,
of which every descent through all levels takes one. Apart from that nesting is limited
(`maxDepth`): expressions, what stands in them between brackets or by itself, and statements
count. The arguments of a call are limited, too (`maxArguments`).

To look at a text with a bad escape is a failure of its own (`Reader.peek`). Only behind
another literal text nothing but the lack of an end of the tag is noticed.
-/

import Rulebook.Template.Token
import Rulebook.Template.Value

namespace Rulebook
namespace Template

/-- An operator between two operands. -/
inductive Operator where
  | or | and
  | equal | different | less | lessEqual | greater | greaterEqual | isIn | isNotIn
  | add | subtract | concat | multiply | divide | floorDivide | remainder | power
deriving DecidableEq, Repr

/-- An expression. The arguments of filters, tests and calls are some without names and
then some with names. -/
inductive Expr where
  | const (v : Value)
  | var (name : String)
  | list (items : List Expr)
  | map (entries : List (Expr × Expr))
  | attr (e : Expr) (name : String)
  | item (e key : Expr)
  | slice (e : Expr) (start stop step : Option Expr)
  | negate (e : Expr)
  | not (e : Expr)
  | binary (op : Operator) (a b : Expr)
  /-- Operands in a row, each compared with the one before it. -/
  | chain (first : Expr) (rest : List (Operator × Expr))
  | choose (test yes : Expr) (no : Option Expr)
  | filter (e : Expr) (name : String) (args : List Expr) (named : List (String × Expr))
  | test (e : Expr) (name : String) (args : List Expr) (named : List (String × Expr))
  | call (name : String) (args : List Expr) (named : List (String × Expr))
  | method (e : Expr) (name : String) (args : List Expr) (named : List (String × Expr))
  /-- A call of something that has no name. -/
  | apply (e : Expr) (args : List Expr) (named : List (String × Expr))

/-- Reads tokens from the front. -/
abbrev Reader := StateT (List Token) (Except Failure)

namespace Reader

/-- The next token, if there is one. -/
def peek : Reader (Option Token) := do
  match ← get with
  | .badText :: _ => throw .badEscape
  | t :: _ => return some t
  | [] => return none

/-- Passes over the next token. -/
def skip : Reader Unit := modify List.tail

/-- Nothing allows the next token. -/
def refuse {α : Type} : Reader α := do
  let _ ← peek
  throw .malformed

/-- The next token is a sign. -/
def at? (s : Symbol) : Reader Bool := do
  match ← peek with
  | some (.sign t) => return s = t
  | _ => return false

/-- The next token is a word. -/
def atWord? (w : String) : Reader Bool := do
  match ← peek with
  | some (.name n) => return w = n
  | _ => return false

/-- Takes a sign, if it is the next token. -/
def sign? (s : Symbol) : Reader Bool := do
  let found ← at? s
  if found then skip
  return found

/-- Takes a word, if it is the next token. -/
def word? (w : String) : Reader Bool := do
  let found ← atWord? w
  if found then skip
  return found

/-- Takes a sign. -/
def sign (s : Symbol) : Reader Unit := do if !(← sign? s) then refuse

/-- Takes a word. -/
def word (w : String) : Reader Unit := do if !(← word? w) then refuse

/-- Takes a name. -/
def name : Reader String := do
  match ← peek with
  | some (.name n) => skip; return n
  | _ => refuse

/-- Names with dots between them, as one name. -/
def dottedName : Nat → Reader String
  | 0 => refuse
  | fuel + 1 => do
    let n ← name
    if ← sign? .dot then return n ++ "." ++ (← dottedName fuel) else return n

/-- Goes one step down in what is nested, of as many as are left. -/
def descend : Nat → Reader Nat
  | 0 => throw .malformed
  | room + 1 => return room

end Reader

/-- The operator that a token is at a level. -/
def Operator.ofToken? (level : Nat) : Token → Option Operator
  | .name n =>
    match level, n with
    | 0, "or" => some .or
    | 1, "and" => some .and
    | 3, "in" => some .isIn
    | _, _ => none
  | .sign s =>
    match level, s with
    | 3, .equal => some .equal
    | 3, .different => some .different
    | 3, .less => some .less
    | 3, .lessEqual => some .lessEqual
    | 3, .greater => some .greater
    | 3, .greaterEqual => some .greaterEqual
    | 4, .plus => some .add
    | 4, .minus => some .subtract
    | 5, .tilde => some .concat
    | 6, .times => some .multiply
    | 6, .slash => some .divide
    | 6, .doubleSlash => some .floorDivide
    | 6, .percent => some .remainder
    | 7, .power => some .power
    | _, _ => none
  | _ => none

/-- Takes an operator of a level, if it is next. -/
def Operator.take? (level : Nat) : Reader (Option Operator) := do
  match ← Reader.peek with
  | some t =>
    if level = 3 then
      if ← Reader.word? "not" then
        Reader.word "in"
        return some .isNotIn
    let op := Operator.ofToken? level t
    if op.isSome then Reader.skip
    return op
  | none => return none

/-- How deep expressions and statements can be nested. -/
def maxDepth : Nat := 150

/-- The number of arguments that a call can have. -/
def maxArguments : Nat := 2000

/-- The texts at the front of tokens, joined to one, are taken. -/
def takeTexts (joined : String) : List Token → Except Failure (String × List Token)
  | .text s :: rest => takeTexts (joined ++ s) rest
  | .badText :: _ => .error .malformed
  | rest => .ok (joined, rest)

/-- The token can begin an argument of a test that stands without brackets. -/
def beginsTestArgument : Token → Bool
  | .name n => n ∉ ["and", "or", "else", "is"]
  | .text _ | .int _ | .real _ => true
  | .sign s => [Symbol.plus, .minus, .openBracket, .openBrace].contains s
  | .badText | .stray => false

namespace Expr

/-- Arguments without and with names. -/
abbrev Arguments := List Expr × List (String × Expr)

mutual

/-- An expression. -/
def read : Nat → Nat → Reader Expr
  | 0, _ => Reader.refuse
  | fuel + 1, room => do readAlternatives fuel (← Reader.descend room)

/-- An expression, without another step down. -/
def readAlternatives : Nat → Nat → Reader Expr
  | 0, _ => Reader.refuse
  | fuel + 1, room => do readChoice fuel room (← readLevel fuel room 0)

/-- An expression of which what stands before a possible `if` has been read. -/
def readChoice : Nat → Nat → Expr → Reader Expr
  | 0, _, _ => Reader.refuse
  | fuel + 1, room, yes => do
    if ← Reader.word? "if" then
      let test ← readLevel fuel room 0
      if ← Reader.word? "else" then
        let no ← readAlternatives fuel room
        readChoice fuel room (.choose test yes (some no))
      else readChoice fuel room (.choose test yes none)
    else return yes

/-- An expression of a level or a tighter one. -/
def readLevel : Nat → Nat → Nat → Reader Expr
  | 0, _, _ => Reader.refuse
  | fuel + 1, room, level => do
    if level = 2 then
      if ← Reader.word? "not" then return .not (← readLevel fuel room 2)
      else readLevel fuel room 3
    else if level = 3 then
      let first ← readLevel fuel room 4
      match ← readComparisons fuel room with
      | [] => return first
      | rest => return .chain first rest
    else if level < 8 then readOperators fuel room level (← readLevel fuel room (level + 1))
    else readFilters fuel room (← readParts fuel room (← readSigned fuel room))

/-- The comparisons behind a first operand. -/
def readComparisons : Nat → Nat → Reader (List (Operator × Expr))
  | 0, _ => Reader.refuse
  | fuel + 1, room => do
    match ← Operator.take? 3 with
    | some op =>
      let e ← readLevel fuel room 4
      return (op, e) :: (← readComparisons fuel room)
    | none => return []

/-- The operators of a level behind a first operand. -/
def readOperators : Nat → Nat → Nat → Expr → Reader Expr
  | 0, _, _, _ => Reader.refuse
  | fuel + 1, room, level, left => do
    match ← Operator.take? level with
    | some op =>
      readOperators fuel room level (.binary op left (← readLevel fuel room (level + 1)))
    | none => return left

/-- A primary expression behind any number of minus signs. -/
def readSigned : Nat → Nat → Reader Expr
  | 0, _ => Reader.refuse
  | fuel + 1, room => do
    if ← Reader.sign? .minus then return .negate (← readSigned fuel room)
    else readPrimary fuel (← Reader.descend room)

/-- A literal, a name or something in brackets. -/
def readPrimary : Nat → Nat → Reader Expr
  | 0, _ => Reader.refuse
  | fuel + 1, room => do
    match ← get with
    | .name n :: rest =>
      set rest
      match n with
      | "true" | "True" => return .const (.bool true)
      | "false" | "False" => return .const (.bool false)
      | "none" | "None" => return .const .none
      | n => return .var n
    | .text s :: rest =>
      let (s, rest) ← takeTexts s rest
      set rest
      return .const (.text s)
    | .int n :: rest => set rest; return .const (.ofNat n)
    | .real x :: rest => set rest; return .const (.real (.number x))
    | .sign .openParen :: rest =>
      set rest
      if ← Reader.sign? .closeParen then return .list []
      let first ← read fuel room
      if ← Reader.sign? .comma then return .list (first :: (← readItems fuel room .closeParen))
      Reader.sign .closeParen
      return first
    | .sign .openBracket :: rest =>
      set rest
      return .list (← readItems fuel room .closeBracket)
    | .sign .openBrace :: rest =>
      set rest
      return .map (← readEntries fuel room)
    | _ => Reader.refuse

/-- Items up to a closing bracket, a comma behind every one but possibly the last. -/
def readItems : Nat → Nat → Symbol → Reader (List Expr)
  | 0, _, _ => Reader.refuse
  | fuel + 1, room, close => do
    if ← Reader.sign? close then return []
    let item ← read fuel room
    if ← Reader.sign? close then return [item]
    Reader.sign .comma
    return item :: (← readItems fuel room close)

/-- The entries of a map up to its closing brace. -/
def readEntries : Nat → Nat → Reader (List (Expr × Expr))
  | 0, _ => Reader.refuse
  | fuel + 1, room => do
    if ← Reader.sign? .closeBrace then return []
    let key ← read fuel room
    Reader.sign .colon
    let value ← read fuel room
    if ← Reader.sign? .closeBrace then return [(key, value)]
    Reader.sign .comma
    return (key, value) :: (← readEntries fuel room)

/-- Parts, slices and calls behind an expression. -/
def readParts : Nat → Nat → Expr → Reader Expr
  | 0, _, _ => Reader.refuse
  | fuel + 1, room, e => do
    if ← Reader.sign? .dot then
      match ← Reader.peek with
      | some (.name n) =>
        Reader.skip
        readParts fuel room (.attr e n)
      | some (.int i) =>
        Reader.skip
        readParts fuel room (.item e (.const (.ofNat i)))
      | _ => Reader.refuse
    else if ← Reader.sign? .openBracket then
      readParts fuel room (← readSubscript fuel room e)
    else if ← Reader.sign? .openParen then
      let (args, named) ← readArguments fuel room 0 false
      match e with
      | .var n => readParts fuel room (.call n args named)
      | .attr e n => readParts fuel room (.method e n args named)
      | e => readParts fuel room (.apply e args named)
    else return e

/-- A subscript up to its closing bracket: a key, or bounds with colons between them. -/
def readSubscript : Nat → Nat → Expr → Reader Expr
  | 0, _, _ => Reader.refuse
  | fuel + 1, room, e => do
    let start ← readBound fuel room
    if ← Reader.sign? .colon then
      let stop ← readBound fuel room
      let step ← if ← Reader.sign? .colon then readBound fuel room else pure none
      Reader.sign .closeBracket
      return .slice e start stop step
    Reader.sign .closeBracket
    match start with
    | some key => return .item e key
    | none => throw .malformed

/-- A bound of a slice, unless it is left out. -/
def readBound : Nat → Nat → Reader (Option Expr)
  | 0, _ => Reader.refuse
  | fuel + 1, room => do
    if (← Reader.at? .colon) || (← Reader.at? .closeBracket) then return none
    return some (← read fuel room)

/-- The arguments behind `count` others, up to a closing bracket; those with names come
last, and `naming` tells that one of them has been read. -/
def readArguments : Nat → Nat → Nat → Bool → Reader Arguments
  | 0, _, _, _ => Reader.refuse
  | fuel + 1, room, count, naming => do
    if ← Reader.sign? .closeParen then return ([], [])
    if 0 < count then
      Reader.sign .comma
      if ← Reader.sign? .closeParen then return ([], [])
    let (name?, e) ← readArgument fuel room
    if naming && name?.isNone then throw .malformed
    if maxArguments ≤ count then throw .malformed
    let (args, named) ← readArguments fuel room (count + 1) name?.isSome
    match name? with
    | some n => return (args, (n, e) :: named)
    | none => return (e :: args, named)

/-- An argument, possibly with a name in front. -/
def readArgument : Nat → Nat → Reader (Option String × Expr)
  | 0, _ => Reader.refuse
  | fuel + 1, room => do
    match ← read fuel room with
    | .var n =>
      if ← Reader.sign? .assign then return (some n, ← read fuel room)
      else return (none, .var n)
    | e => return (none, e)

/-- Arguments, if they follow. -/
def readArguments? : Nat → Nat → Reader Arguments
  | 0, _ => Reader.refuse
  | fuel + 1, room => do
    if ← Reader.sign? .openParen then readArguments fuel room 0 false else return ([], [])

/-- Filters and tests behind an expression. -/
def readFilters : Nat → Nat → Expr → Reader Expr
  | 0, _, _ => Reader.refuse
  | fuel + 1, room, e => do
    if ← Reader.sign? .pipe then
      let n ← Reader.dottedName fuel
      let (args, named) ← readArguments? fuel room
      readFilters fuel room (.filter e n args named)
    else if ← Reader.word? "is" then
      let negated ← Reader.word? "not"
      let n ← Reader.dottedName fuel
      let (args, named) ← readTestArguments fuel room
      let test := Expr.test e n args named
      readFilters fuel room (if negated then .not test else test)
    else return e

/-- The arguments of a test: in brackets, or a single one without. -/
def readTestArguments : Nat → Nat → Reader Arguments
  | 0, _ => Reader.refuse
  | fuel + 1, room => do
    if ← Reader.sign? .openParen then readArguments fuel room 0 false
    else if (← Reader.peek).any beginsTestArgument then
      return ([← readParts fuel room (← readSigned fuel room)], [])
    else return ([], [])

end

/-- The number of descents that tokens allow. -/
def fuelFor (tokens : List Token) : Nat := 20 * (tokens.length + 2)

/-- An expression, read from the front of tokens. -/
def take (room : Nat) : Reader Expr := do read (fuelFor (← get)) room

/-- An expression without a choice at its top, read from the front of tokens. -/
def takePlain (room : Nat) : Reader Expr := do readLevel (fuelFor (← get)) room 0

/-- An expression, or several with commas between them, which make a list. -/
def takeRow (room : Nat) : Reader Expr := do
  let first ← take room
  if ← Reader.sign? .comma then return .list (first :: (← go (← get).length)) else return first
where
  /-- At most so many expressions; a comma may stand behind the last one. -/
  go : Nat → Reader (List Expr)
    | 0 => return []
    | n + 1 => do
      if (← get).isEmpty then return []
      let e ← take room
      if ← Reader.sign? .comma then return e :: (← go n) else return [e]

/-- Filters in a row, the first of them without a sign in front. -/
def takeFilters (room : Nat) : Reader (List (String × Arguments)) := do
  let tokens ← get
  go (fuelFor tokens) tokens.length
where
  /-- At most so many filters. -/
  go (fuel : Nat) : Nat → Reader (List (String × Arguments))
    | 0 => Reader.refuse
    | n + 1 => do
      let filter := (← Reader.dottedName fuel, ← readArguments? fuel room)
      if ← Reader.sign? .pipe then return filter :: (← go fuel n) else return [filter]

end Expr

end Template
end Rulebook
