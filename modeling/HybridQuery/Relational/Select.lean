import HybridQuery.Query.Basic
import HybridQuery.Relational.Statement
import HybridQuery.Relational.ClauseCondition

/-!
# Selecting rows

A `Select` is a statement that selects rows of a table: those that meet all its conditions,
sorted by its keys, a limited number of them from an offset on. `Select.apply` adds what a
plan leaves to the relational engine, and its search.
-/

namespace HybridQuery

/-- What a statement gives of every row. -/
inductive Projection where
  | everything
  | column (column : Column)
  deriving DecidableEq, Repr

def Projection.sql : Projection → String
  | .everything => "*"
  | .column c => c.sql

/-- What rows are sorted by, and in which direction. -/
structure SortKey where
  sql : String
  direction : Direction
  deriving DecidableEq, Repr

def SortKey.statement (s : SortKey) : Statement :=
  match s.direction with
  | .ascending => [.text (s.sql ++ " ASC")]
  | .descending => [.text (s.sql ++ " DESC")]

/-- An order by a column or by the score of a search, which has to be there. -/
def Order.sortKey (table : Option String) : Order → Except Error SortKey
  | .column c direction => .ok ⟨c.sql, direction⟩
  | .score direction =>
    match table with
    | some table => .ok ⟨scoreExpression table, direction⟩
    | none => .error (.unsupportedClause .scoreWithoutTable)

/-- A statement that selects rows of a table. -/
structure Select where
  projection : Projection
  table : String
  conditions : List Condition := []
  sorts : List SortKey := []
  limit : Option UInt64 := none
  offset : Option UInt64 := none

namespace Select

/-- A part that is left out when there is nothing in it. -/
def part (keyword : String) : Statement → Statement
  | [] => []
  | s => .text keyword :: s

/-- All conditions joined by `AND`. -/
def condition (s : Select) : Statement :=
  match s.conditions with
  | [] => []
  | conditions => (Condition.joinAll .and conditions).statement

/-- A number of rows. -/
def count : Option UInt64 → Statement
  | none => []
  | some n => [.parameter (.count n)]

def statement (s : Select) : Statement :=
  .text ("SELECT " ++ s.projection.sql ++ " FROM " ++ Sql.identifier s.table) ::
    (part " WHERE " s.condition ++
      part " ORDER BY " (Statement.separated ", " (s.sorts.map SortKey.statement)) ++
      part " LIMIT " (count s.limit) ++ part " OFFSET " (count s.offset))

/-- Add what a plan asks for: its search and filters as conditions, its orders, its limit and
its offset. A score is that of the search. -/
def apply (s : Select) (plan : Plan) : Except Error Select := do
  let filters ← Clause.conditions plan.filters
  let sorts ← plan.orders.mapM (Order.sortKey (plan.search.map Predicate.table))
  let search := plan.search.toList.map fun predicate => Condition.search predicate.sql
  .ok
    { s with
      conditions := s.conditions ++ search ++ filters
      sorts := s.sorts ++ sorts
      limit := plan.limit.or s.limit
      offset := plan.offset.or s.offset }

end Select

end HybridQuery
