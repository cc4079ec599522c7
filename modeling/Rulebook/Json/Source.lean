/-
# JSON text as read

A text is read once, into a tree that also holds what is wrong with it. How much of a
text has to be right depends on what is done with it: a value that is kept must be
sound in every part, a value that is only passed over must have the right outline. So
each place where a text can fail says which failure a keeping reader and a skipping
reader report there.

| text | kept | skipped |
| --- | --- | --- |
| `"\ud800"` | lone leading surrogate | fine |
| `1e999` | number out of range | fine |
| `[1,]` | trailing comma | expected value |
| `{"a":1,}` | trailing comma | key must be a string |
| `-` at the end | end of input in a value | invalid number |

`keep` and `skip` are these two readings of the tree.
-/

import Rulebook.Json.Basic

namespace Rulebook
namespace Json

/-- What is wrong with a JSON text. -/
inductive SyntaxError where
  | endInValue
  | endInString
  | endInList
  | endInObject
  | expectedColon
  | expectedListCommaOrEnd
  | expectedObjectCommaOrEnd
  | expectedWord
  | expectedValue
  | invalidEscape
  | invalidNumber
  | numberOutOfRange
  | invalidCodePoint
  | controlCharacter
  | keyNotString
  | loneSurrogate
  | unfinishedSurrogate
  | trailingComma
  | trailingCharacters
  | tooDeep
deriving DecidableEq, Repr

/-- The wording of a syntax error. -/
def SyntaxError.message : SyntaxError → String
  | endInValue => "EOF while parsing a value"
  | endInString => "EOF while parsing a string"
  | endInList => "EOF while parsing a list"
  | endInObject => "EOF while parsing an object"
  | expectedColon => "expected `:`"
  | expectedListCommaOrEnd => "expected `,` or `]`"
  | expectedObjectCommaOrEnd => "expected `,` or `\x7d`"
  | expectedWord => "expected ident"
  | expectedValue => "expected value"
  | invalidEscape => "invalid escape"
  | invalidNumber => "invalid number"
  | numberOutOfRange => "number out of range"
  | invalidCodePoint => "invalid unicode code point"
  | controlCharacter => "control character (\\u0000-\\u001F) found while parsing a string"
  | keyNotString => "key must be a string"
  | loneSurrogate => "lone leading surrogate in hex escape"
  | unfinishedSurrogate => "unexpected end of hex escape"
  | trailingComma => "trailing comma"
  | trailingCharacters => "trailing characters"
  | tooDeep => "recursion limit exceeded"

/-- A failure, as a skipping and as a keeping reader report it. -/
structure Fault where
  skipped : SyntaxError
  kept : SyntaxError
deriving DecidableEq, Repr

/-- A failure that both readers report alike. -/
def Fault.both (e : SyntaxError) : Fault := ⟨e, e⟩

/-- What follows the last item of a list that was read. -/
inductive ListEnd where
  /-- The closing bracket. -/
  | closed
  /-- Nothing was read further, because the last item is broken. -/
  | unread
  /-- The end of the input. -/
  | endOfInput
  /-- Something that is neither a comma nor the closing bracket. -/
  | noComma
  /-- A comma and the closing bracket. -/
  | commaClosed
  /-- A comma and the end of the input. -/
  | commaEndOfInput
deriving DecidableEq, Repr

/-- What a reader reports where the items of a list end, if not at a closing bracket. -/
def ListEnd.fault? : ListEnd → Option Fault
  | closed => none
  | unread => some (.both .endInList)
  | endOfInput => some (.both .endInList)
  | noComma => some (.both .expectedListCommaOrEnd)
  | commaClosed => some ⟨.expectedValue, .trailingComma⟩
  | commaEndOfInput => some (.both .endInValue)

/-- What is reported at the end of a list by a reader that has all the items it wants. -/
def ListEnd.surplus? : ListEnd → Option SyntaxError
  | closed => none
  | unread => some .endInList
  | endOfInput => some .endInList
  | noComma => some .trailingCharacters
  | commaClosed => some .trailingComma
  | commaEndOfInput => some .trailingCharacters

/-- What follows the last field of an object that was read. -/
inductive ObjectEnd where
  /-- The closing brace. -/
  | closed
  /-- Nothing was read further, because the last value is broken. -/
  | unread
  /-- The end of the input. -/
  | endOfInput
  /-- Something that is neither a comma nor the closing brace. -/
  | noComma
  /-- Something other than a key where a key has to be. -/
  | noKey
  /-- A comma and the closing brace. -/
  | commaClosed
  /-- A comma and the end of the input. -/
  | commaEndOfInput
  /-- A broken key. -/
  | brokenKey (fault : Fault)
deriving DecidableEq, Repr

/-- What a reader reports where the fields of an object end, if not at a closing brace. -/
def ObjectEnd.fault? : ObjectEnd → Option Fault
  | closed => none
  | unread => some (.both .endInObject)
  | endOfInput => some (.both .endInObject)
  | noComma => some (.both .expectedObjectCommaOrEnd)
  | noKey => some (.both .keyNotString)
  | commaClosed => some ⟨.keyNotString, .trailingComma⟩
  | commaEndOfInput => some ⟨.endInObject, .endInValue⟩
  | brokenKey f => some f

/-- A JSON text as read. A number, a text or a key has the right outline and may still be
no value to keep; `deep` marks an array or object inside so many others that it is not
kept. -/
inductive Source where
  | broken (fault : Fault)
  | null
  | bool (value : Bool)
  | number (value : Except SyntaxError Number)
  | string (value : Except SyntaxError String)
  | array (deep : Bool) (items : List Source) (ending : ListEnd)
  | object (deep : Bool) (fields : List (Except SyntaxError String × Source))
      (ending : ObjectEnd)

namespace Source

instance : Inhabited Source := ⟨.null⟩

mutual

/-- Passes over a text. -/
def skip : Source → Except SyntaxError Unit
  | .broken f => .error f.skipped
  | .array _ items ending =>
    match skipItems items with
    | .error e => .error e
    | .ok () =>
      match ending.fault? with
      | some f => .error f.skipped
      | none => .ok ()
  | .object _ fields ending =>
    match skipFields fields with
    | .error e => .error e
    | .ok () =>
      match ending.fault? with
      | some f => .error f.skipped
      | none => .ok ()
  | _ => .ok ()

/-- Passes over the items of a list. -/
def skipItems : List Source → Except SyntaxError Unit
  | [] => .ok ()
  | s :: rest =>
    match skip s with
    | .error e => .error e
    | .ok () => skipItems rest

/-- Passes over the fields of an object. -/
def skipFields : List (Except SyntaxError String × Source) → Except SyntaxError Unit
  | [] => .ok ()
  | (_, s) :: rest =>
    match skip s with
    | .error e => .error e
    | .ok () => skipFields rest

end

mutual

/-- Keeps a text as a tree. -/
def keep : Source → Except SyntaxError Json
  | .broken f => .error f.kept
  | .null => .ok .null
  | .bool b => .ok (.bool b)
  | .number n => n.map .number
  | .string s => s.map .string
  | .array deep items ending =>
    if deep then .error .tooDeep
    else
      match keepItems items with
      | .error e => .error e
      | .ok items =>
        match ending.fault? with
        | some f => .error f.kept
        | none => .ok (.array items)
  | .object deep fields ending =>
    if deep then .error .tooDeep
    else
      match keepFields fields with
      | .error e => .error e
      | .ok fields =>
        match ending.fault? with
        | some f => .error f.kept
        | none => .ok (.object fields)

/-- Keeps the items of a list. -/
def keepItems : List Source → Except SyntaxError (List Json)
  | [] => .ok []
  | s :: rest =>
    match keep s with
    | .error e => .error e
    | .ok j =>
      match keepItems rest with
      | .error e => .error e
      | .ok js => .ok (j :: js)

/-- Keeps the fields of an object. -/
def keepFields :
    List (Except SyntaxError String × Source) → Except SyntaxError (List (String × Json))
  | [] => .ok []
  | (key, s) :: rest =>
    match key with
    | .error e => .error e
    | .ok k =>
      match keep s with
      | .error e => .error e
      | .ok j =>
        match keepFields rest with
        | .error e => .error e
        | .ok fields => .ok ((k, j) :: fields)

end

mutual

/-- A tree as a text in which nothing is wrong. -/
def ofJson : Json → Source
  | .null => .null
  | .bool b => .bool b
  | .number n => .number (.ok n)
  | .string s => .string (.ok s)
  | .array items => .array false (ofItems items) .closed
  | .object fields => .object false (ofFields fields) .closed

/-- `ofJson` for the items of an array. -/
def ofItems : List Json → List Source
  | [] => []
  | j :: rest => ofJson j :: ofItems rest

/-- `ofJson` for the fields of an object. -/
def ofFields : List (String × Json) → List (Except SyntaxError String × Source)
  | [] => []
  | (k, j) :: rest => (.ok k, ofJson j) :: ofFields rest

end

mutual

/-- Keeping a sound text gives the tree back. -/
@[simp] theorem keep_ofJson (j : Json) : keep (ofJson j) = .ok j := by
  cases j with
  | array items => simp [ofJson, keep, ListEnd.fault?, keepItems_ofItems items]
  | object fields => simp [ofJson, keep, ObjectEnd.fault?, keepFields_ofFields fields]
  | _ => rfl

/-- The items of a value are kept as they are. -/
@[simp] theorem keepItems_ofItems (items : List Json) : keepItems (ofItems items) = .ok items := by
  cases items with
  | nil => rfl
  | cons j rest => simp [ofItems, keepItems, keep_ofJson j, keepItems_ofItems rest]

/-- The fields of a value are kept as they are. -/
@[simp] theorem keepFields_ofFields (fields : List (String × Json)) :
    keepFields (ofFields fields) = .ok fields := by
  cases fields with
  | nil => rfl
  | cons e rest =>
    obtain ⟨k, j⟩ := e
    simp [ofFields, keepFields, keep_ofJson j, keepFields_ofFields rest]

end

mutual

/-- A sound text can be passed over. -/
@[simp] theorem skip_ofJson (j : Json) : skip (ofJson j) = .ok () := by
  cases j with
  | array items => simp [ofJson, skip, ListEnd.fault?, skipItems_ofItems items]
  | object fields => simp [ofJson, skip, ObjectEnd.fault?, skipFields_ofFields fields]
  | _ => rfl

/-- Nothing is wrong with the items of a value. -/
@[simp] theorem skipItems_ofItems (items : List Json) : skipItems (ofItems items) = .ok () := by
  cases items with
  | nil => rfl
  | cons j rest => simp [ofItems, skipItems, skip_ofJson j, skipItems_ofItems rest]

/-- Nothing is wrong with the fields of a value. -/
@[simp] theorem skipFields_ofFields (fields : List (String × Json)) :
    skipFields (ofFields fields) = .ok () := by
  cases fields with
  | nil => rfl
  | cons e rest =>
    obtain ⟨k, j⟩ := e
    simp [ofFields, skipFields, skip_ofJson j, skipFields_ofFields rest]

end

end Source

end Json
end Rulebook
