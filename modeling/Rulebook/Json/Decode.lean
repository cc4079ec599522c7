/-
# Decoding JSON

A decoder turns a text as read into a value of some type, or says why it cannot. Parts
are visited in the order in which they are written, so of several faults the first one
is reported; a part that nobody asks for is only passed over.

A record is decoded from an object, whose fields may come in any order, or from an array
of its fields in their declared order. `Fields` describes the fields of a record: it is
an applicative functor, so the description of a record is its constructor applied to
the descriptions of its fields. From an object, each declared field is checked where it
stands; after the last one the missing fields are filled in or reported in declared
order.
-/

import Rulebook.Json.Reader
import Rulebook.Decimal.Layout
import Rulebook.Text.Quoted

namespace Rulebook
namespace Json

/-- What was found in place of something else. -/
inductive Found where
  | null
  | bool (value : Bool)
  | int (value : Int)
  | real (value : Binary64)
  | string (value : String)
  | list
  | object
deriving DecidableEq, Repr

/-- The wording of what was found. -/
def Found.describe : Found → String
  | null => "null"
  | bool b => "boolean `" ++ (if b then "true" else "false") ++ "`"
  | int n => "integer `" ++ toString n ++ "`"
  | real x => "floating point `" ++ Decimal.Layout.interchange.text x ++ "`"
  | string s => "string " ++ Text.quote s
  | list => "sequence"
  | object => "map"

/-- Why a text is not the value asked for. -/
inductive DecodeError where
  | badSyntax (error : SyntaxError)
  | wrongType (found : Found) (expected : String)
  | outOfRange (found : Found) (expected : String)
  | wrongLength (length : Nat) (expected : String)
  | missingField (name : String)
  | duplicateField (name : String)
  | unknownField (name : String) (known : List String)
  | rejected (reason : String)
deriving DecidableEq, Repr

/-- The wording of a decoding error. -/
def DecodeError.message : DecodeError → String
  | badSyntax e => e.message
  | wrongType found expected => "invalid type: " ++ found.describe ++ ", expected " ++ expected
  | outOfRange found expected => "invalid value: " ++ found.describe ++ ", expected " ++ expected
  | wrongLength n expected => "invalid length " ++ toString n ++ ", expected " ++ expected
  | missingField name => "missing field `" ++ name ++ "`"
  | duplicateField name => "duplicate field `" ++ name ++ "`"
  | unknownField name known =>
    "unknown field `" ++ name ++ "`, expected "
      ++ " or ".intercalate (known.map fun k => "`" ++ k ++ "`")
  | rejected reason => reason

/-- The result of decoding. -/
abbrev Decoded (α : Type) := Except DecodeError α

/-- A decoder. -/
abbrev Decoder (α : Type) := Source → Decoded α

/-- A syntax error as a decoding error. -/
def ofSyntax {α : Type} : Except SyntaxError α → Decoded α
  | .ok a => .ok a
  | .error e => .error (.badSyntax e)

/-- What a text holds, for a message. A list or an object is not read further. -/
def Source.found : Source → Decoded Found
  | .broken f => .error (.badSyntax f.kept)
  | .null => .ok .null
  | .bool b => .ok (.bool b)
  | .number n =>
    (ofSyntax n).map fun
      | .int n => .int n
      | .real x => .real x
  | .string s => (ofSyntax s).map .string
  | .array .. => .ok .list
  | .object .. => .ok .object

/-- Something else was expected. -/
def Source.mismatch {α : Type} (s : Source) (expected : String) : Decoded α :=
  match s.found with
  | .ok found => .error (.wrongType found expected)
  | .error e => .error e

namespace Decode

/-- Any value. -/
def value : Decoder Value := fun s => (ofSyntax s.keep).map Value.ofJson

/-- A text, in a place where `expected` is expected. -/
def stringAs (expected : String) : Decoder String
  | .string s => ofSyntax s
  | s => s.mismatch expected

/-- A text. -/
def string : Decoder String := stringAs "a string"

/-- A text that a reader accepts; the reader words its own refusal. -/
def stringVia {α : Type} (expected : String) (read : String → Except String α) : Decoder α :=
  fun s =>
    match stringAs expected s with
    | .error e => .error e
    | .ok text =>
      match read text with
      | .ok a => .ok a
      | .error reason => .error (.rejected reason)

/-- A natural number below a bound, in a place where `expected` is expected. -/
def natBelow (bound : Nat) (expected : String) : Decoder Nat
  | .number n =>
    match ofSyntax n with
    | .error e => .error e
    | .ok (.real x) => .error (.wrongType (.real x) expected)
    | .ok (.int (.ofNat n)) =>
      if n < bound then .ok n else .error (.outOfRange (.int n) expected)
    | .ok (.int n) => .error (.outOfRange (.int n) expected)
  | s => s.mismatch expected

/-- A number of 32 bits. -/
def u32 : Decoder UInt32 := fun s => (natBelow (Nat.pow 2 32) "u32" s).map UInt32.ofNat

/-- A number of 64 bits that counts something or tells a place. -/
def size : Decoder UInt64 := fun s => (natBelow (Nat.pow 2 64) "usize" s).map UInt64.ofNat

/-- `null` for nothing, or a value. -/
def optional {α : Type} (d : Decoder α) : Decoder (Option α)
  | .null => .ok none
  | s => (d s).map some

/-- The items of a list, one by one. -/
def items {α : Type} (d : Decoder α) : List Source → Decoded (List α)
  | [] => .ok []
  | s :: rest =>
    match d s with
    | .error e => .error e
    | .ok a =>
      match items d rest with
      | .error e => .error e
      | .ok as => .ok (a :: as)

/-- A list. -/
def list {α : Type} (d : Decoder α) : Decoder (List α)
  | .array deep its ending =>
    if deep then .error (.badSyntax .tooDeep)
    else
      match items d its with
      | .error e => .error e
      | .ok as =>
        match ending.fault? with
        | some f => .error (.badSyntax f.kept)
        | none => .ok as
  | s => s.mismatch "a sequence"

/-- The entries of an object, one by one. -/
def entries {α : Type} (d : Decoder α) :
    List (Except SyntaxError String × Source) → Decoded (List (String × α))
  | [] => .ok []
  | (key, s) :: rest =>
    match key with
    | .error e => .error (.badSyntax e)
    | .ok k =>
      match d s with
      | .error e => .error e
      | .ok a =>
        match entries d rest with
        | .error e => .error e
        | .ok es => .ok ((k, a) :: es)

/-- A map; of several entries with one key the last one counts. -/
def map {α : Type} (d : Decoder α) : Decoder (SortedMap α)
  | .object deep fields ending =>
    if deep then .error (.badSyntax .tooDeep)
    else
      match entries d fields with
      | .error e => .error e
      | .ok es =>
        match ending.fault? with
        | some f => .error (.badSyntax f.kept)
        | none => .ok (.ofList es)
  | s => s.mismatch "a map"

end Decode

/-- The fields of a record, in their declared order. -/
structure Fields (α : Type) where
  /-- Each declared name with the check of what stands under it. -/
  checks : List (String × (Source → Decoded Unit))
  /-- The record, from what stands under its names. -/
  ofObject : (String → Option Source) → Decoded α
  /-- The record, from the items of a list: the first argument is the number of fields
  before, the third the wording of the whole. Gives the items that are left. -/
  ofList : Nat → List Source × ListEnd → String → Decoded (α × List Source × ListEnd)

namespace Fields

/-- A record without fields. -/
protected def pure {α : Type} (a : α) : Fields α where
  checks := []
  ofObject _ := .ok a
  ofList _ l _ := .ok (a, l)

/-- A record of two parts, the fields of the first one declared before those of the second. -/
protected def seq {α β : Type} (f : Fields (α → β)) (x : Unit → Fields α) : Fields β where
  checks := f.checks ++ (x ()).checks
  ofObject look :=
    match f.ofObject look with
    | .error e => .error e
    | .ok g =>
      match (x ()).ofObject look with
      | .error e => .error e
      | .ok a => .ok (g a)
  ofList i l whole :=
    match f.ofList i l whole with
    | .error e => .error e
    | .ok (g, l) =>
      match (x ()).ofList (i + f.checks.length) l whole with
      | .error e => .error e
      | .ok (a, l) => .ok (g a, l)

instance : Applicative Fields where
  pure := Fields.pure
  seq := Fields.seq

/-- A field with a name; without a default it has to be there. -/
def field {α : Type} (name : String) (d : Decoder α) (default? : Option α := none) :
    Fields α where
  checks := [(name, fun s => (d s).map fun _ => ())]
  ofObject look :=
    match look name with
    | some s => d s
    | none =>
      match default? with
      | some a => .ok a
      | none => .error (.missingField name)
  ofList i l whole :=
    match l with
    | (s :: rest, ending) => (d s).map fun a => (a, rest, ending)
    | ([], ending) =>
      match ending.fault? with
      | some f => .error (.badSyntax f.kept)
      | none =>
        match default? with
        | some a => .ok (a, [], ending)
        | none => .error (.wrongLength i whole)

/-- The number of fields. -/
def size {α : Type} (f : Fields α) : Nat := f.checks.length

/-- The declared names. -/
def names {α : Type} (f : Fields α) : List String := f.checks.map (·.1)

end Fields

namespace Decode

/-- Visits the fields of an object in written order: a declared one may stand there once
and is checked, another one is passed over unless `strict`. -/
def checkFields (checks : List (String × (Source → Decoded Unit))) (strict : Bool)
    (seen : List String) : List (Except SyntaxError String × Source) → Decoded Unit
  | [] => .ok ()
  | (key, s) :: rest =>
    match key with
    | .error e => .error (.badSyntax e)
    | .ok k =>
      match checks.lookup k with
      | none =>
        if strict then .error (.unknownField k (checks.map (·.1)))
        else
          match ofSyntax s.skip with
          | .error e => .error e
          | .ok () => checkFields checks strict seen rest
      | some check =>
        if seen.contains k then .error (.duplicateField k)
        else
          match check s with
          | .error e => .error e
          | .ok () => checkFields checks strict (k :: seen) rest

/-- What stands under a name. -/
def lookField (name : String) : List (Except SyntaxError String × Source) → Option Source
  | [] => none
  | (.ok k, s) :: rest => if name = k then some s else lookField name rest
  | (.error _, _) :: rest => lookField name rest

/-- The end of a list of which nothing more is wanted. -/
def listDone : List Source × ListEnd → Decoded Unit
  | (_ :: _, _) => .error (.badSyntax .trailingCharacters)
  | ([], ending) =>
    match ending.surplus? with
    | some e => .error (.badSyntax e)
    | none => .ok ()

/-- A record, called `title` in messages and `whole` where its length is wrong. -/
def recordAs {α : Type} (title whole : String) (strict : Bool) (f : Fields α) : Decoder α
  | .object deep fields ending =>
    if deep then .error (.badSyntax .tooDeep)
    else
      match checkFields f.checks strict [] fields with
      | .error e => .error e
      | .ok () =>
        match ending.fault? with
        | some fault => .error (.badSyntax fault.kept)
        | none => f.ofObject fun name => lookField name fields
  | .array deep its ending =>
    if deep then .error (.badSyntax .tooDeep)
    else
      match f.ofList 0 (its, ending) whole with
      | .error e => .error e
      | .ok (a, l) =>
        match listDone l with
        | .error e => .error e
        | .ok () => .ok a
  | s => s.mismatch title

/-- A record with a name; unknown fields are passed over. -/
def record {α : Type} (name : String) (f : Fields α) : Decoder α :=
  let title := "struct " ++ name
  recordAs title
    (title ++ " with " ++ toString f.size ++ (if f.size = 1 then " element" else " elements"))
    false f

end Decode

/-- Decodes a whole text: after the value only white space may follow. -/
def decodeBytes {α : Type} (d : Decoder α) (bytes : List UInt8) : Decoded α :=
  let doc := Document.read bytes
  match d doc.root with
  | .error e => .error e
  | .ok a => if doc.trailing then .error (.badSyntax .trailingCharacters) else .ok a

/-- Decodes a value. -/
def decodeValue {α : Type} (d : Decoder α) (v : Value) : Decoded α :=
  d (.ofJson v.json)

end Json
end Rulebook
