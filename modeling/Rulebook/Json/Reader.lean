/-
# Reading JSON text

`Document.read` turns bytes into a `Source`, the outline of a JSON text with all that is
wrong in it, and says whether anything but white space follows. The recursion is on the
length of the input: every value takes at least one byte.
-/

import Rulebook.Json.StringText

namespace Rulebook
namespace Json

open Text (isDigit)

/-- White space between the parts of a text. -/
def isSpace (c : Char) : Bool := c == ' ' || c == '\n' || c == '\t' || c == '\r'

/-- The input without leading white space. -/
def skipSpace (s : List Char) : List Char := s.dropWhile isSpace

/-- Skipping white space leaves no more than there was. -/
theorem length_skipSpace_le (s : List Char) : (skipSpace s).length ≤ s.length :=
  length_dropWhile_le isSpace s

/-- A value and the input after it, which is shorter. -/
structure Read (α : Type) (s : List Char) where
  value : α
  rest : List Char
  lt : rest.length < s.length

/-- Nothing is left, because no more is read. -/
def Read.stop {α : Type} (value : α) {s : List Char} (h : s ≠ []) : Read α s :=
  ⟨value, [], List.length_pos_iff.2 h⟩

/-- The rest of a word whose first letter was read. -/
def scanWord (value : Source) : List Char → (s : List Char) → Except Fault (Front Source s)
  | [], s => .ok ⟨value, s, Nat.le_refl _⟩
  | _ :: _, [] => .error (.both .endInValue)
  | w :: word, c :: r =>
    if w = c then
      match scanWord value word r with
      | .error f => .error f
      | .ok t => .ok ⟨t.value, t.rest, by have := t.le; simp only [List.length_cons]; omega⟩
    else .error (.both .expectedWord)

/-- An array or object inside this many others is not kept. -/
def maxDepth : Nat := 127

/-- The source of a number's outline. -/
def numberSource (t : NumberText) : Source := .number t.value

/-- A scan of what follows the first character, as a scan from that character on. -/
def Front.shift {α β : Type} (f : α → β) {s r : List Char} (h : r.length < s.length) :
    Except Fault (Front α r) → Except Fault (Read β s)
  | .error e => .error e
  | .ok t => .ok ⟨f t.value, t.rest, Nat.lt_of_le_of_lt t.le h⟩

mutual

/-- A value inside `depth` arrays and objects. -/
def readValue (depth : Nat) (s : List Char) : Except Fault (Read Source s) :=
  match hs : skipSpace s with
  | [] => .error (.both .endInValue)
  | c :: r =>
    have hr : r.length < s.length := by
      have := length_skipSpace_le s; rw [hs] at this; simp only [List.length_cons] at this; omega
    if c = 'n' then Front.shift id hr (scanWord .null ['u', 'l', 'l'] r)
    else if c = 't' then Front.shift id hr (scanWord (.bool true) ['r', 'u', 'e'] r)
    else if c = 'f' then Front.shift id hr (scanWord (.bool false) ['a', 'l', 's', 'e'] r)
    else if c = '"' then Front.shift .string hr (scanString {} r)
    else if c = '-' then Front.shift numberSource hr (scanNumber true r)
    else if hc : isDigit c then
      match hn : scanNumber false (c :: r) with
      | .error f => .error f
      | .ok t =>
        .ok ⟨numberSource t.value, t.rest, by
          have := scanNumber_lt hc hn; simp only [List.length_cons] at this; omega⟩
    else if c = '[' then
      let t := readItems (depth + 1) true r
      .ok ⟨.array (maxDepth ≤ depth) t.value.1 t.value.2, t.rest, Nat.lt_of_le_of_lt t.le hr⟩
    else if c = '\x7b' then
      let t := readFields (depth + 1) true r
      .ok ⟨.object (maxDepth ≤ depth) t.value.1 t.value.2, t.rest, Nat.lt_of_le_of_lt t.le hr⟩
    else .error (.both .expectedValue)
termination_by (s.length, 0)

/-- The items of a list inside `depth` arrays and objects, from the first one or from the
comma before the next. -/
def readItems (depth : Nat) (first : Bool) (s : List Char) :
    Front (List Source × ListEnd) s :=
  match hs : skipSpace s with
  | [] => ⟨([], .endOfInput), [], Nat.zero_le _⟩
  | c :: r =>
    have hr : r.length < s.length := by
      have := length_skipSpace_le s; rw [hs] at this; simp only [List.length_cons] at this; omega
    if c = ']' then ⟨([], .closed), r, by omega⟩
    else if first then
      match readValue depth s with
      | .error f => ⟨([.broken f], .unread), [], Nat.zero_le _⟩
      | .ok v =>
        have := v.lt
        let t := readItems depth false v.rest
        ⟨(v.value :: t.value.1, t.value.2), t.rest, by have := t.le; omega⟩
    else if c = ',' then
      match skipSpace r with
      | [] => ⟨([], .commaEndOfInput), [], Nat.zero_le _⟩
      | ']' :: _ => ⟨([], .commaClosed), [], Nat.zero_le _⟩
      | _ =>
        match readValue depth r with
        | .error f => ⟨([.broken f], .unread), [], Nat.zero_le _⟩
        | .ok v =>
          have := v.lt
          let t := readItems depth false v.rest
          ⟨(v.value :: t.value.1, t.value.2), t.rest, by have := t.le; omega⟩
    else ⟨([], .noComma), [], Nat.zero_le _⟩
termination_by (s.length, 1)

/-- The fields of an object inside `depth` arrays and objects, from the first key or from
the comma before the next. -/
def readFields (depth : Nat) (first : Bool) (s : List Char) :
    Front (List (Except SyntaxError String × Source) × ObjectEnd) s :=
  match hs : skipSpace s with
  | [] => ⟨([], .endOfInput), [], Nat.zero_le _⟩
  | c :: r =>
    have hr : r.length < s.length := by
      have := length_skipSpace_le s; rw [hs] at this; simp only [List.length_cons] at this; omega
    if c = '\x7d' then ⟨([], .closed), r, by omega⟩
    else if first then
      if c = '"' then
        let t := readField depth r
        ⟨t.value, t.rest, by have := t.le; omega⟩
      else ⟨([], .noKey), [], Nat.zero_le _⟩
    else if c = ',' then
      match hr' : skipSpace r with
      | [] => ⟨([], .commaEndOfInput), [], Nat.zero_le _⟩
      | '\x7d' :: _ => ⟨([], .commaClosed), [], Nat.zero_le _⟩
      | '"' :: r' =>
        have hlt : r'.length < r.length := by
          have := length_skipSpace_le r; rw [hr'] at this
          simp only [List.length_cons] at this; omega
        let t := readField depth r'
        ⟨t.value, t.rest, by have := t.le; omega⟩
      | _ => ⟨([], .noKey), [], Nat.zero_le _⟩
    else ⟨([], .noComma), [], Nat.zero_le _⟩
termination_by (s.length, 0)

/-- A field after the opening quote of its key, and the fields after it. -/
def readField (depth : Nat) (s : List Char) :
    Front (List (Except SyntaxError String × Source) × ObjectEnd) s :=
  match scanString {} s with
  | .ok key =>
    have := key.le
    match hk : skipSpace key.rest with
    | [] => ⟨([(key.value, .broken (.both .endInObject))], .unread), [], Nat.zero_le _⟩
    | c :: r =>
      have hr : r.length < key.rest.length := by
        have := length_skipSpace_le key.rest; rw [hk] at this
        simp only [List.length_cons] at this; omega
      if c = ':' then
        match readValue depth r with
        | .error f => ⟨([(key.value, .broken f)], .unread), [], Nat.zero_le _⟩
        | .ok v =>
          have := v.lt
          let t := readFields depth false v.rest
          ⟨((key.value, v.value) :: t.value.1, t.value.2), t.rest, by have := t.le; omega⟩
      else ⟨([(key.value, .broken (.both .expectedColon))], .unread), [], Nat.zero_le _⟩
  | .error f => ⟨([], .brokenKey f), [], Nat.zero_le _⟩
termination_by (s.length, 1)

end

/-- A text: its outline, and whether something other than white space follows. -/
structure Document where
  root : Source
  trailing : Bool

/-- Reads bytes. -/
def Document.read (bytes : List UInt8) : Document :=
  match readValue 0 (bytes.map fun b => Char.ofNat b.toNat) with
  | .error f => ⟨.broken f, false⟩
  | .ok v => ⟨v.value, skipSpace v.rest != []⟩

end Json
end Rulebook
