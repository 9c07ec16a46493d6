import HybridQuery.Error
import HybridQuery.Regex.Parser

/-!
# Patterns

A `Pattern` is a regular expression, told apart by its source. `Pattern.parse` accepts a
source that is one.
-/

namespace HybridQuery

/-- A regular expression. -/
structure Pattern where
  source : String
  deriving DecidableEq, Repr, Inhabited

/-- The pattern with this source, if the source is a regular expression. -/
def Pattern.parse (source : String) : Except Regex.Fault Pattern :=
  match Regex.parse source.toList with
  | .ok _ => .ok ⟨source⟩
  | .error fault => .error fault

end HybridQuery
