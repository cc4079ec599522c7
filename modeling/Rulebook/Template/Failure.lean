/-
# Failures of templates

A template fails to render for one of a few kinds of reasons; the kind is all that a
failure says.
-/

namespace Rulebook
namespace Template

/-- Why a template cannot be rendered. -/
inductive Failure where
  /-- The text is no template. -/
  | malformed
  | badEscape
  /-- A value is used that is not there. -/
  | undefinedValue
  | invalidOperation
  | unknownFilter
  | unknownTest
  | unknownFunction
  | unknownMethod
  | unknownBlock
  | missingArgument
  | tooManyArguments
  | cannotUnpack
  | templateNotFound
deriving DecidableEq, Repr

/-- The wording of a failure. -/
def Failure.message : Failure → String
  | malformed => "syntax error"
  | badEscape => "bad string escape"
  | undefinedValue => "undefined value"
  | invalidOperation => "invalid operation"
  | unknownFilter => "unknown filter"
  | unknownTest => "unknown test"
  | unknownFunction => "unknown function"
  | unknownMethod => "unknown method"
  | unknownBlock => "unknown block"
  | missingArgument => "missing argument"
  | tooManyArguments => "too many arguments"
  | cannotUnpack => "cannot unpack"
  | templateNotFound => "template not found"

end Template
end Rulebook
