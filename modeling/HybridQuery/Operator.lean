/-!
# Comparison operators

The operators a column can be compared with.
-/

namespace HybridQuery

inductive Operator where
  | eq
  | ne
  | gt
  | gte
  | lt
  | lte
  /-- Full-text match. -/
  | matches
  /-- Phrase or regular expression match. -/
  | like
  /-- In a range, its two bounds included. -/
  | between
  /-- One of a list of values. -/
  | isIn
  | isNot
  deriving DecidableEq, Repr, Inhabited

namespace Operator

/-- Every operator. -/
def all : List Operator :=
  [.eq, .ne, .gt, .gte, .lt, .lte, .matches, .like, .between, .isIn, .isNot]

theorem mem_all (op : Operator) : op ∈ all := by
  cases op <;> decide

/-- The operator as messages write it. -/
def symbol : Operator → String
  | .eq => "="
  | .ne => "!="
  | .gt => ">"
  | .gte => ">="
  | .lt => "<"
  | .lte => "<="
  | .matches => "MATCH"
  | .like => "LIKE"
  | .between => "BETWEEN"
  | .isIn => "IN"
  | .isNot => "IS NOT"

end Operator

end HybridQuery
