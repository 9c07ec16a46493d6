/-!
# Columns

A column belongs to a table and to one of two engines: its predicates are evaluated either
by the search engine, which has the column in its index, or by the relational engine.
-/

namespace HybridQuery

/-- The engine that evaluates the predicates on a column. -/
inductive Engine where
  | search
  | relational
  deriving DecidableEq, Repr, Inhabited

def Engine.name : Engine → String
  | .search => "Search"
  | .relational => "Relational"

/-- A column of a table. -/
structure Column where
  table : String
  name : String
  engine : Engine := .relational
  deriving DecidableEq, Repr, Inhabited

namespace Column

def isSearch (c : Column) : Bool :=
  decide (c.engine = .search)

/-- The name after the table's. -/
def qualified (c : Column) : String :=
  c.table ++ "." ++ c.name

end Column

end HybridQuery
