import HybridQuery.Order
import HybridQuery.Clause

/-!
# Queries

A `Query` collects filters, orders, a limit and an offset without looking at them. Filters
and orders add up, of limits and offsets the last one counts. A `Plan` is a query split between
the engines: one search for the search engine, and the rest for the relational engine.
-/

namespace HybridQuery

/-- A query in the making. -/
structure Query where
  filters : List Clause := []
  orders : List Order := []
  limit : Option UInt64 := none
  offset : Option UInt64 := none
  deriving Inhabited

namespace Query

/-- The query that asks for everything. -/
def empty : Query := {}

def addFilter (q : Query) (clause : Clause) : Query :=
  { q with filters := q.filters ++ [clause] }

def addOrder (q : Query) (order : Order) : Query :=
  { q with orders := q.orders ++ [order] }

def setLimit (q : Query) (limit : UInt64) : Query :=
  { q with limit := some limit }

def setOffset (q : Query) (offset : UInt64) : Query :=
  { q with offset := some offset }

end Query

/-- A query split between the two engines. -/
structure Plan where
  /-- The search, if any filter is on a search column. -/
  search : Option Predicate
  /-- The filters of the relational engine. -/
  filters : List Clause
  /-- The orders of the relational engine, and those the search has no room for. -/
  orders : List Order
  limit : Option UInt64
  offset : Option UInt64

mutual

/-- The table of the first column compared in a clause, from left to right. -/
def Clause.firstTable? : Clause → Option String
  | .comparison c => some c.column.table
  | .group _ children => Clause.firstTableOf? children
  | _ => none

/-- The table of the first column compared in a list of clauses. -/
def Clause.firstTableOf? : List Clause → Option String
  | [] => none
  | clause :: rest =>
    match Clause.firstTable? clause with
    | some table => some table
    | none => Clause.firstTableOf? rest

end

/-- The table that a query is about: the one that is searched, else the first one compared. -/
def Plan.table? (p : Plan) : Option String :=
  match p.search with
  | some predicate => some predicate.table
  | none => Clause.firstTableOf? p.filters

end HybridQuery
