/-
# Assignments

A line of an environment file assigns a value to a variable, with the word `export` in
front of it or not.

In a value, quotes are taken off, a backslash stands in front of a character that is
meant itself (or of `n` for a line feed), and `$NAME` and `${NAME}` are replaced by the value
of the variable, except between single quotes. A blank outside of quotes ends the value;
only a comment may follow it.
-/

import Rulebook.Config
import Rulebook.Text.Letter

namespace Rulebook
namespace EnvironmentFile

/-- What a line says. -/
inductive Reading where
  | nothing
  | assignment (name value : String)
  | malformed
deriving DecidableEq, Repr

/-- The value of a variable, which is empty for one that is not set. -/
def substitute (env : Environment) (name : List Char) : List Char :=
  ((env.get? (String.ofList name)).getD "").toList

/-- The part of a value in which a character stands; `weak` tells whether that is between
double quotes. -/
inductive ValuePart where
  | plain (weak : Bool)
  | strong
  | escaped (weak : Bool)
  | named (weak : Bool) (name : List Char)
  | braced (weak : Bool) (name : List Char)
  /-- Behind the value. -/
  | behind
deriving DecidableEq, Repr

/-- A letter or a digit. -/
def isNameChar (c : Char) : Bool := Text.alphabetic.contains c || Text.numeric.contains c

/-- What a character of a value does. -/
inductive ValueStep where
  /-- Some characters are written, and the value goes on in a part. -/
  | next (part : ValuePart) (written : List Char)
  | comment
  | malformed

namespace ValuePart

/-- What a character does in a part. -/
def step (env : Environment) : ValuePart → Char → ValueStep
  | behind, c =>
    if c = ' ' || c = '\t' then .next .behind []
    else if c = '#' then .comment
    else .malformed
  | escaped weak, c =>
    if ['\\', '\'', '"', '$', ' '].contains c then .next (.plain weak) [c]
    else if c = 'n' then .next (.plain weak) ['\n']
    else .malformed
  | strong, c => if c = '\'' then .next (.plain false) [] else .next .strong [c]
  | named weak name, c =>
    if isNameChar c then .next (.named weak (name ++ [c])) []
    else if c = '\x7b' && name.isEmpty then .next (.braced weak []) []
    else if c = '$' then .next (.named weak []) (substitute env name)
    else .next (.plain weak) (substitute env name ++ [c])
  | braced weak name, c =>
    if c = '\x7d' then .next (.plain weak) (substitute env name)
    else .next (.braced weak (name ++ [c])) []
  | plain weak, c =>
    if c = '$' then .next (.named weak []) []
    else if c = '\\' then .next (.escaped weak) []
    else if c = '"' then .next (.plain (!weak)) []
    else if weak then .next (.plain weak) [c]
    else if c = '\'' then .next .strong []
    else if c = ' ' || c = '\t' then .next .behind []
    else .next (.plain weak) [c]

/-- What the end of the line does: the characters written there, unless the value is not
complete. -/
def atEnd (env : Environment) : ValuePart → Option (List Char)
  | behind | plain false | escaped false => some []
  | named false name => some (substitute env name)
  | _ => none

/-- The value that characters give from a part on. -/
def read (env : Environment) (part : ValuePart) : List Char → Option (List Char)
  | [] => part.atEnd env
  | c :: rest =>
    match part.step env c with
    | .malformed => none
    | .comment => some []
    | .next part written => (part.read env rest).map (written ++ ·)

end ValuePart

/-- The characters of a line from the first on that is not blank. -/
def skipBlanks (cs : List Char) : List Char := cs.dropWhile Text.isBlank

/-- A name at the start of a line, and what follows it. -/
def readName? : List Char → Option (List Char × List Char)
  | [] => none
  | c :: rest =>
    if c.isAlpha || c = '_' then
      let inner (c : Char) : Bool := c.isAlphanum || c = '_' || c = '.'
      some (c :: rest.takeWhile inner, skipBlanks (rest.dropWhile inner))
    else none

/-- The assignment of what stands behind an equals sign. -/
def assign (env : Environment) (name : List Char) (behind : List Char) : Reading :=
  let value := skipBlanks behind
  if value.isEmpty || value.head? = some '#' then .assignment (String.ofList name) ""
  else
    match (ValuePart.plain false).read env value with
    | none => .malformed
    | some text => .assignment (String.ofList name) (String.ofList text)

/-- The name and the equals sign that have to follow the word `export`. -/
def readExported (env : Environment) (rest : List Char) : Reading :=
  match readName? rest with
  | some (name, '=' :: behind) => assign env name behind
  | _ => .malformed

/-- Reads a line. -/
def readLine (env : Environment) (line : List Char) : Reading :=
  let line := Text.trimChars line
  if line.isEmpty || line.head? = some '#' then .nothing
  else
    match readName? line with
    | none => .malformed
    | some (name, '=' :: behind) => assign env name behind
    | some (name, rest) =>
      if name = "export".toList then readExported env rest else .malformed

end EnvironmentFile
end Rulebook
