import HybridQuery.Order
import HybridQuery.Search.Draft
import HybridQuery.Search.Rendering

/-!
# Compiling a search

The clauses of a search are rendered one after another and joined by `and`. The first of them
may declare the table. An order that is fused into the search goes in front together with the
limit and the offset. The draft that this gives becomes a `Predicate` when it has a template
and a single table (`Compiler.compile`).
-/

namespace HybridQuery

/-- What a compilation may be told. -/
structure Compiler where
  dialect : Dialect := .standard
  /-- The SQL of a column whose value is put into the query. -/
  columnSql : Column → String := Column.qualified
  /-- How deep the scripts of the dialect may nest. -/
  nesting : Nat := 100

/-- The field that stands for the relevance score. -/
def scoreField : String := "_score"

/-- An order with the limit and the offset, as it stands in front of a query. -/
def limitText (field : String) (direction : Direction) (limit offset : UInt64) : String :=
  "#limit(" ++ field ++ " " ++ direction.text ++ ", " ++ naturalText offset.toNat ++ ", " ++
    naturalText limit.toNat ++ ") "

/-- The front of a query, which searches the table of the column it orders by. -/
def renderOrder (limit offset : UInt64) : Option Order → Rendered
  | none => pure ""
  | some (.column c direction) => do
    .note (.table c.table)
    pure (limitText c.name direction limit offset)
  | some (.score direction) => pure (limitText scoreField direction limit offset)

namespace Compiler

/-- A clause in the terms of this compiler. -/
def render (compiler : Compiler) : Clause → Rendered :=
  renderWithin compiler.dialect compiler.nesting

/-- All clauses. The first one may declare the table that is searched. -/
def renderAll (compiler : Compiler) : List Clause → Logged Note (List String)
  | .literal (.table name) :: rest => do
    .note (.table name)
    Logged.each compiler.render rest
  | clauses => Logged.each compiler.render clauses

/-- The whole text. -/
def renderQuery (compiler : Compiler) (clauses : List Clause) (order : Option Order)
    (limit offset : UInt64) : Rendered := do
  let texts ← compiler.renderAll clauses
  let front ← renderOrder limit offset order
  pure (front ++ " and ".intercalate texts)

/-- The draft of a search. -/
def draft (compiler : Compiler) (clauses : List Clause) (order : Option Order)
    (limit offset : UInt64) : Except Error Draft :=
  let rendered := compiler.renderQuery clauses order limit offset
  match rendered.outcome with
  | .ok text => .ok ⟨text, rendered.log.filterMap Note.column?, rendered.log.filterMap Note.table?⟩
  | .error e => .error e

end Compiler

/-- Compile clauses to a search. Without an order to fuse, the limit and the offset have no
part in it. -/
def Compiler.compile (compiler : Compiler) (clauses : List Clause) (order : Option Order)
    (limit offset : UInt64) : Except Error Predicate := do
  let draft ← compiler.draft clauses order limit offset
  let query ← draft.template
  let table ← draft.table
  .ok ⟨table, query, draft.columns.map fun c => argumentSql (compiler.columnSql c)⟩

end HybridQuery
