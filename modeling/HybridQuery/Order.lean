import HybridQuery.Error

/-!
# Orders

Rows are ordered by a column or by the relevance score that the search engine gives them. An
order by score or by a search column is the search engine's (`Order.isSearch`).
-/

namespace HybridQuery

inductive Direction where
  | ascending
  | descending
  deriving DecidableEq, Repr

namespace Direction

/-- The direction of an order that names none. -/
def default : Direction := .ascending

def text : Direction → String
  | .ascending => "asc"
  | .descending => "desc"

/-- The direction with this text. -/
def parse (text : String) : Except Error Direction :=
  if text = "asc" then .ok .ascending
  else if text = "desc" then .ok .descending
  else .error (.invalidParameter (.direction text))

theorem parse_text (d : Direction) : parse d.text = .ok d := by
  cases d <;> rfl

end Direction

/-- By what rows are ordered, and in which direction. -/
inductive Order where
  | column (column : Column) (direction : Direction)
  | score (direction : Direction)
  deriving DecidableEq, Repr

namespace Order

def direction : Order → Direction
  | .column _ d => d
  | .score d => d

/-- Only the search engine can honour this order by itself. -/
def isSearch : Order → Bool
  | .column c _ => c.isSearch
  | .score _ => true

end Order

end HybridQuery
