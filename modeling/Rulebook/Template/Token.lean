/-
# Pieces of a template

A template is text with tags in it: `{{ … }}` writes a value, `{% … %}` is a statement,
and `{# … #}` is a comment. `Piece.scan` cuts a template into its texts and tags, the tags
as lists of tokens. It reads the characters once, from the left; `Mode` is what it
remembers of those behind it.

* A tag ends at its closing mark, unless brackets are open.
* A minus sign next to a mark, inside the tag, removes the blank characters next to it
  outside; a plus sign there has no effect.
* Between `{% raw %}` and `{% endraw %}` everything is text.

Scanning never fails. What cannot be read becomes a token that no grammar accepts, and
the rest is left unread.
-/

import Rulebook.Text.Blank
import Rulebook.Decimal.Reading
import Rulebook.Json.StringText

namespace Rulebook
namespace Template

/-- A sign inside a tag. -/
inductive Symbol where
  | plus | minus | times | slash | doubleSlash | percent | power
  | equal | different | less | lessEqual | greater | greaterEqual
  | dot | comma | colon | tilde | pipe | assign
  | openParen | closeParen | openBracket | closeBracket | openBrace | closeBrace
deriving DecidableEq, Repr

/-- A sign of two characters. -/
def Symbol.ofPair? : Char → Char → Option Symbol
  | '/', '/' => some doubleSlash
  | '*', '*' => some power
  | '=', '=' => some equal
  | '!', '=' => some different
  | '>', '=' => some greaterEqual
  | '<', '=' => some lessEqual
  | _, _ => none

/-- A sign of one character. -/
def Symbol.ofChar? : Char → Option Symbol
  | '+' => some plus
  | '-' => some minus
  | '*' => some times
  | '/' => some slash
  | '%' => some percent
  | '.' => some dot
  | ',' => some comma
  | ':' => some colon
  | '~' => some tilde
  | '|' => some pipe
  | '=' => some assign
  | '>' => some greater
  | '<' => some less
  | '(' => some openParen
  | ')' => some closeParen
  | '[' => some openBracket
  | ']' => some closeBracket
  | '\x7b' => some openBrace
  | '\x7d' => some closeBrace
  | _ => none

/-- The number of brackets that a sign opens, less those that it closes. -/
def Symbol.nesting : Symbol → Int
  | openParen | openBracket | openBrace => 1
  | closeParen | closeBracket | closeBrace => -1
  | _ => 0

/-- What tags are made of. -/
inductive Token where
  | name (text : String)
  | text (value : String)
  | int (value : Nat)
  | real (value : Float)
  | sign (symbol : Symbol)
  /-- A text with an escape that is none. -/
  | badText
  /-- Something that is no token, or the end of the template inside a tag. -/
  | stray

/-! ### Words -/

/-- White space inside tags. -/
def isSpace (c : Char) : Bool :=
  c == ' ' || c == '\t' || c == '\n' || c == '\x0c' || c == '\r'

/-- A letter or an underscore. -/
def startsName (c : Char) : Bool :=
  c == '_' || ('a' ≤ c && c ≤ 'z') || ('A' ≤ c && c ≤ 'Z')

/-- A character after the first one of a name. -/
def continuesName (c : Char) : Bool := startsName c || Text.isDigit c

/-- How far a number has been read. -/
inductive NumberPart where
  | whole
  | based (radix : Nat)
  | fraction
  /-- Behind the letter of the exponent. -/
  | exponent
  | exponentDigits
deriving DecidableEq, Repr

/-- The radix that a letter behind a leading zero announces. -/
def radixOf? : Char → Option Nat
  | 'b' | 'B' => some 2
  | 'o' | 'O' => some 8
  | 'x' | 'X' => some 16
  | _ => none

/-- The part of a number in which a character continues it. -/
def NumberPart.next? (part : NumberPart) (c : Char) : Option NumberPart :=
  if c = '_' then some part
  else
    match part with
    | .whole =>
      if Text.isDigit c then some .whole
      else if c = '.' then some .fraction
      else if c = 'e' ∨ c = 'E' then some .exponent
      else none
    | .based radix =>
      if Text.isDigit c ∨ (radix = 16 ∧ (Json.hexValue? [c]).isSome) then some part else none
    | .fraction =>
      if Text.isDigit c then some .fraction
      else if c = 'e' ∨ c = 'E' then some .exponent
      else none
    | .exponent =>
      if Text.isDigit c ∨ c = '+' ∨ c = '-' then some .exponentDigits else none
    | .exponentDigits => if Text.isDigit c then some .exponentDigits else none

/-- The number that digits of a radix spell. -/
def basedNumber? (radix : Nat) (ds : List Char) : Option Nat :=
  if ds = [] then none
  else
    ds.foldl
      (fun acc c => acc.bind fun n =>
        (Json.hexValue? [c]).bind fun d => if d < radix then some (n * radix + d) else none)
      (some 0)

/-- The greatest number that may be written. -/
def maxInt : Nat := Nat.pow 2 128 - 1

/-- The token of a number's characters. -/
def numberToken (part : NumberPart) (cs : List Char) : Token :=
  let ds := cs.filter (· ≠ '_')
  let whole (n : Option Nat) : Token :=
    match n with
    | some n => if n ≤ maxInt then .int n else .stray
    | none => .stray
  if cs.getLast? = some '_' then .stray
  else
    match part with
    | .whole => whole (basedNumber? 10 ds)
    | .based radix => whole (basedNumber? radix (ds.drop 2))
    | _ =>
      match Decimal.unsigned? ds with
      | some x => .real x
      | none => .stray

/-- A word that has begun; its characters come last first. -/
inductive Word where
  | none
  | name (seen : List Char)
  | number (part : NumberPart) (seen : List Char)

/-- An exponent begins the characters, or what was meant to be one. -/
def beginsExponent : List Char → Bool
  | c :: d :: _ => (c == 'e' || c == 'E') && (Text.isDigit d || d == '+' || d == '-')
  | _ => false

/-- What stands behind a dot is a name and not the rest of a number. -/
def isMember (cs : List Char) : Bool :=
  (cs.head?.map startsName).getD false && !beginsExponent cs

/-- The word with one more character, if that belongs to it; `rest` follows. The dot behind
a whole number belongs to it unless a name follows. -/
def Word.extend? (w : Word) (c : Char) (rest : List Char) : Option Word :=
  match w with
  | .none => Option.none
  | .name seen => if continuesName c then some (.name (c :: seen)) else Option.none
  | .number part seen =>
    match (if seen = ['0'] then radixOf? c else Option.none) with
    | some radix => some (.number (.based radix) (c :: seen))
    | Option.none =>
      if part = .whole ∧ c = '.' ∧ isMember rest then Option.none
      else (part.next? c).map fun p => .number p (c :: seen)

/-- The tokens behind which a word stands as well; the latest token comes first. -/
def Word.close (w : Word) (tokens : List Token) : List Token :=
  match w with
  | .none => tokens
  | .name seen => .name (String.ofList seen.reverse) :: tokens
  | .number part seen => numberToken part seen.reverse :: tokens

/-- The word that a character begins. -/
def Word.start? (c : Char) : Option Word :=
  if Text.isDigit c then some (.number .whole [c])
  else if startsName c then some (.name [c])
  else Option.none

/-! ### Texts -/

/-- The character of an escape of one letter. -/
def escaped? : Char → Option Char
  | '"' => some '"'
  | '\\' => some '\\'
  | '/' => some '/'
  | '\'' => some '\''
  | 'b' => some '\x08'
  | 'f' => some '\x0c'
  | 'n' => some '\n'
  | 'r' => some '\r'
  | 't' => some '\t'
  | _ => none

/-- The number that hexadecimal digits spell; a plus sign may stand in front. -/
def hexNumber? : List Char → Option Nat
  | '+' :: d :: ds => Json.hexValue? (d :: ds)
  | ds => Json.hexValue? ds

/-- An octal digit. -/
def isOctal (c : Char) : Bool := '0' ≤ c && c ≤ '7'

/-- The number that octal digits spell. -/
def octalNumber (ds : List Char) : Nat := ds.foldl (fun n d => 8 * n + (d.toNat - '0'.toNat)) 0

/-- The characters that an escaped text stands for; `high` is the first half of a
character beyond 16 bits, of which the second half has to follow, and `skip` characters
belong to an escape that has been read already. A backslash that begins no escape stands
for itself. -/
def unescape (high : Option Nat) : Nat → List Char → Option (List Char)
  | _, [] => if high.isSome then none else some []
  | skip + 1, _ :: rest => unescape high skip rest
  | 0, '\\' :: rest =>
    let code (n length : Nat) : Option (List Char) :=
      if high.isNone ∧ n ≤ 0xff then (unescape none length rest).map (Char.ofNat n :: ·) else none
    match rest with
    | [] => none
    | 'u' :: more =>
      match (if 4 ≤ more.length then hexNumber? (more.take 4) else none), high with
      | none, _ => none
      | some n, none =>
        if 0xD800 ≤ n ∧ n ≤ 0xDFFF then unescape (some n) 5 rest
        else (unescape none 5 rest).map (Char.ofNat n :: ·)
      | some n, some h =>
        if h < 0xDC00 ∧ 0xDC00 ≤ n ∧ n ≤ 0xDFFF then
          let c := Char.ofNat (0x10000 + (h - 0xD800) * 0x400 + (n - 0xDC00))
          (unescape none 5 rest).map (c :: ·)
        else none
    | 'x' :: more =>
      match (if 2 ≤ more.length then hexNumber? (more.take 2) else none) with
      | some n => code n 3
      | none => none
    | e :: _ =>
      if isOctal e then
        let digits := (rest.take 3).takeWhile isOctal
        code (octalNumber digits) digits.length
      else
        match escaped? e, high with
        | _, some _ => none
        | some c, none => (unescape none 1 rest).map (c :: ·)
        | none, none => (unescape none 1 rest).map fun cs => '\\' :: e :: cs
  | 0, c :: rest => if high.isSome then none else (unescape none 0 rest).map (c :: ·)

/-- The token of the characters between two quotes. -/
def textToken (cs : List Char) : Token :=
  match unescape none 0 cs with
  | some cs => .text (String.ofList cs)
  | none => .badText

/-! ### Pieces -/

/-- The two kinds of tags. -/
inductive TagKind where
  | output
  | statement
deriving DecidableEq, Repr

/-- The first character of a tag's closing mark. -/
def TagKind.closer : TagKind → Char
  | output => '\x7d'
  | statement => '%'

/-- A piece of a template. -/
inductive Piece where
  | text (s : String)
  | tag (kind : TagKind) (tokens : List Token)
  /-- A comment or a raw part without an end. -/
  | endless

/-- A tag that has begun. -/
structure OpenTag where
  kind : TagKind
  /-- The number of brackets that are open. -/
  depth : Int
  /-- The tokens so far, the latest one first. -/
  tokens : List Token
  word : Word

namespace OpenTag

/-- The tag with a finished word. -/
def closeWord (t : OpenTag) : OpenTag :=
  { t with tokens := t.word.close t.tokens, word := .none }

/-- The tag with one more token. -/
def push (t : OpenTag) (token : Token) : OpenTag := { t with tokens := token :: t.tokens }

/-- The tag with one more sign. -/
def pushSign (t : OpenTag) (s : Symbol) : OpenTag :=
  { t with tokens := .sign s :: t.tokens, depth := t.depth + s.nesting }

/-- The tag begins a raw part. -/
def isRaw (t : OpenTag) : Bool :=
  match t.kind, t.tokens with
  | .statement, [.name word] => word == "raw"
  | _, _ => false

/-- What the tag is in the template; the tag that begins a raw part is none. -/
def pieces (t : OpenTag) : List Piece :=
  if t.isRaw then [] else [.tag t.kind t.tokens.reverse]

/-- The tag, broken off. -/
def broken (t : OpenTag) : List Piece := [.tag t.kind (t.closeWord.push .stray).tokens.reverse]

end OpenTag

/-- What stands behind a mark `{`: a tag, or a comment. -/
def opening? : Char → Option (Option TagKind)
  | '\x7b' => some (some .output)
  | '%' => some (some .statement)
  | '#' => some none
  | _ => none

/-- What has been read. Characters come last first. -/
inductive Mode where
  /-- Text; `trim` drops blank characters at its start. -/
  | text (trim : Bool) (seen : List Char)
  | comment
  | tag (t : OpenTag)
  /-- Between quotes; `escape` tells that a backslash stands in front. -/
  | quoted (t : OpenTag) (quote : Char) (escape : Bool) (seen : List Char)
  | raw (trim : Bool) (seen : List Char)
  /-- Inside the tag that ends a raw part: so many more characters belong to it. -/
  | leaving (count : Nat) (trim : Bool)

/-- What follows an opening mark. -/
def Mode.opened : Option TagKind → Mode
  | some kind => .tag { kind, depth := 0, tokens := [], word := .none }
  | none => .comment

/-- What follows a tag. -/
def OpenTag.after (t : OpenTag) (trim : Bool) : Mode :=
  if t.isRaw then .raw trim [] else .text trim []

/-- A text in front of pieces, unless it is empty. -/
def withText (seen : List Char) (pieces : List Piece) : List Piece :=
  if seen = [] then pieces else .text (String.ofList seen.reverse) :: pieces

/-- A text in front of a mark: the mark's minus sign removes the blank characters. -/
def beforeMark (mark : Option Char) (seen : List Char) : List Char :=
  if mark = some '-' then seen.dropWhile Text.isBlank else seen

/-- A minus or a plus sign next to a mark. -/
def isControl (c : Char) : Bool := c == '-' || c == '+'

/-- The rest of an end tag of a raw part behind its opening mark: the control sign in
front, the one at the end, and the number of its characters. -/
def endRaw? (cs : List Char) : Option (Option Char × Option Char × Nat) :=
  let control (cs : List Char) : Option Char × List Char :=
    match cs with
    | c :: rest => if isControl c then (some c, rest) else (none, cs)
    | [] => (none, [])
  let (front, body) := control cs
  let body := body.dropWhile isSpace
  let word := "endraw".toList
  if word.isPrefixOf body then
    let (back, close) := control ((body.drop word.length).dropWhile isSpace)
    match close with
    | '%' :: '\x7d' :: rest => some (front, back, cs.length - rest.length)
    | _ => none
  else none

/-- The pieces of the rest of a template. -/
def scanFrom : Mode → List Char → List Piece
  | .text _ seen, [] => withText seen []
  | .text trim seen, c :: rest =>
    if trim && seen.isEmpty && Text.isBlank c then scanFrom (.text true []) rest
    else if c = '\x7b' then
      match rest with
      | [] => withText (c :: seen) []
      | d :: more =>
        match opening? d with
        | none => scanFrom (.text trim (c :: seen)) (d :: more)
        | some opened =>
          match more with
          | [] => withText seen (scanFrom (.opened opened) [])
          | e :: inner =>
            if isControl e then
              withText (beforeMark (some e) seen) (scanFrom (.opened opened) inner)
            else withText seen (scanFrom (.opened opened) (e :: inner))
    else scanFrom (.text trim (c :: seen)) rest
  | .comment, [] => [.endless]
  | .comment, c :: rest =>
    match rest with
    | [] => [.endless]
    | d :: more =>
      if c = '#' ∧ d = '\x7d' then scanFrom (.text false []) more
      else
        match more with
        | [] => [.endless]
        | e :: after =>
          if c = '-' ∧ d = '#' ∧ e = '\x7d' then scanFrom (.text true []) after
          else scanFrom .comment (d :: e :: after)
  | .tag t, [] => t.broken
  | .tag t, c :: rest =>
    match t.word.extend? c rest with
    | some word => scanFrom (.tag { t with word }) rest
    | none =>
      let t := t.closeWord
      if isSpace c then scanFrom (.tag t) rest
      else
        match rest with
        | [] => (t.push .stray).broken
        | d :: more =>
          if t.depth = 0 ∧ c = t.kind.closer ∧ d = '\x7d' then
            t.pieces ++ scanFrom (t.after false) more
          else
            match more with
            | e :: after =>
              if t.depth = 0 ∧ isControl c ∧ d = t.kind.closer ∧ e = '\x7d' then
                t.pieces ++ scanFrom (t.after (c == '-')) after
              else
                match Symbol.ofPair? c d with
                | some s => scanFrom (.tag (t.pushSign s)) (e :: after)
                | none =>
                  if c = '"' ∨ c = '\'' then scanFrom (.quoted t c false []) (d :: e :: after)
                  else
                    match Word.start? c with
                    | some word => scanFrom (.tag { t with word }) (d :: e :: after)
                    | none =>
                      match Symbol.ofChar? c with
                      | some s => scanFrom (.tag (t.pushSign s)) (d :: e :: after)
                      | none => t.broken
            | [] => t.broken
  | .quoted t _ _ _, [] => t.broken
  | .quoted t quote escape seen, c :: rest =>
    if escape then scanFrom (.quoted t quote false (c :: seen)) rest
    else if c = '\\' then scanFrom (.quoted t quote true (c :: seen)) rest
    else if c = quote then scanFrom (.tag (t.push (textToken seen.reverse))) rest
    else scanFrom (.quoted t quote false (c :: seen)) rest
  | .raw _ _, [] => [.endless]
  | .raw trim seen, c :: rest =>
    if trim && seen.isEmpty && Text.isBlank c then scanFrom (.raw true []) rest
    else
      match rest with
      | [] => [.endless]
      | d :: more =>
        if c = '\x7b' ∧ d = '%' then
          match endRaw? more with
          | some (front, back, count) =>
            withText (beforeMark front seen) (scanFrom (.leaving count (back == some '-')) more)
          | none => scanFrom (.raw trim (c :: seen)) (d :: more)
        else scanFrom (.raw trim (c :: seen)) (d :: more)
  | .leaving _ _, [] => []
  | .leaving count trim, _ :: rest =>
    if count ≤ 1 then scanFrom (.text trim []) rest
    else scanFrom (.leaving (count - 1) trim) rest

/-- The pieces of a template. -/
def Piece.scan (template : String) : List Piece := scanFrom (.text false []) template.toList

end Template
end Rulebook
