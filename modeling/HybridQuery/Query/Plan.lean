import HybridQuery.Query.Split
import HybridQuery.Search.Compiler

/-!
# Planning a query

The filters are split, and those of the search engine are compiled to one search. Only an
order together with a limit has a form in a search query, so the first order of the search
engine is fused into the search when there is a limit, and takes the limit and the offset
with it. All other orders of the search engine follow the relational ones; without a search
there is no score to order by.
-/

namespace HybridQuery

/-- The orders that the relational engine has to honour although they are not its own. Each
is noted; an order by score needs a search. -/
def demote (searched : Bool) : List Order → Logged Event Unit
  | [] => pure ()
  | .score direction :: rest =>
    if searched then do
      .note (.demoted (.score direction))
      demote searched rest
    else .lift (refuseClause .scoreWithoutSearch)
  | .column c direction :: rest => do
    .note (.demoted (.column c direction))
    demote searched rest

namespace Query

/-- The orders of the search engine. -/
def searchOrders (q : Query) : List Order :=
  q.orders.filter Order.isSearch

/-- The orders of the relational engine. -/
def relationalOrders (q : Query) : List Order :=
  q.orders.filter fun order => !order.isSearch

/-- The order that is fused into the search, given whether there is one. -/
def fused (q : Query) (searched : Bool) : Option Order :=
  if searched && q.limit.isSome then q.searchOrders.head? else none

/-- The orders of the search engine that are left when one is fused. -/
def demoted (q : Query) (searched : Bool) : List Order :=
  if (q.fused searched).isSome then q.searchOrders.tail else q.searchOrders

/-- The search for the filters of the search engine, if there are any. -/
def search (q : Query) (compiler : Compiler) :
    List Clause → Logged Event (Option Predicate)
  | [] => pure none
  | clauses => do
    let predicate ← .lift
      (compiler.compile clauses (q.fused true) (q.limit.getD 0) (q.offset.getD 0))
    .note (.compiled predicate)
    pure (some predicate)

/-- Split the query between the two engines. -/
def plan (q : Query) (compiler : Compiler) : Logged Event Plan := do
  let clauses ← .lift (Clause.flattenAll q.filters)
  let (searched, filters) ← Clause.split clauses
  let search ← q.search compiler searched
  demote search.isSome (q.demoted search.isSome)
  let taken := (q.fused search.isSome).isSome
  let plan : Plan :=
    { search, filters
      orders := q.relationalOrders ++ q.demoted search.isSome
      limit := if taken then none else q.limit
      offset := if taken then none else q.offset }
  .note (.planned plan)
  pure plan

end Query

end HybridQuery
