/-
# Loaded rules

Specification §4.2 (Rule Repository Loader).

A rule together with its rendered body. Active rules are kept under their reference ids.
-/

import Rulebook.Rule
import Rulebook.Path

namespace Rulebook

/-- A rule with its rendered body. -/
@[ext]
structure LoadedRule where
  rule : Rule
  body : String
  /-- The canonical path of the body file. -/
  bodyPath : Path

end Rulebook
