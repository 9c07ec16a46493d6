import HybridQuery.Text.Quoting

/-!
# The search predicate

What a compilation ends in: the one table that is searched, the query, and the SQL
expressions that are put into the query when it runs. With such expressions the query is a
`format` template, without them it is the search text itself. `Predicate.sql` is the
predicate as the relational engine reads it, and `scoreExpression` the relevance of a row.
-/

namespace HybridQuery

/-- A compiled search. -/
structure Predicate where
  table : String
  query : String
  /-- SQL expressions for the placeholders of the query, in order. -/
  arguments : List String
  deriving DecidableEq, Repr, Inhabited

/-- The search in SQL. -/
def Predicate.sql (p : Predicate) : String :=
  let head := "zdb(" ++ Sql.literal p.table ++ ", ctid) ==> "
  match p.arguments with
  | [] => head ++ Sql.literal p.query
  | arguments => head ++ "format(" ++ Sql.literal p.query ++ ", " ++
      ", ".intercalate arguments ++ ")"

/-- The relevance of a row of `table` in SQL. -/
def scoreExpression (table : String) : String :=
  "zdb_score(" ++ Sql.literal table ++ ", " ++ Sql.quoted table ++ ".ctid)"

end HybridQuery
