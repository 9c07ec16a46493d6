import HybridQuery.Logged
import HybridQuery.Query.Event

/-!
# Splitting filters between the engines

Filters are joined by `and`, so conjunctions among them can be taken apart (`flatten`); what
is left are comparisons and disjunctions. `engine` finds the one engine that evaluates such a
clause. A disjunction cannot be split, so all comparisons in it have to be of one engine: its
children are looked at from left to right, up to the first of the other. `split` does so with
every clause and keeps the two engines' clauses in their order.
-/

namespace HybridQuery

/-- Refuse a clause. -/
def refuseClause {α : Type} (fault : ClauseFault) : Except Error α :=
  .error (.unsupportedClause fault)

namespace Clause

mutual

/-- The clauses that a filter is the conjunction of. -/
def flatten : Clause → Except Error (List Clause)
  | .group .and children => flattenAll children
  | .group .or children => .ok [.group .or children]
  | .comparison c => .ok [.comparison c]
  | .literal value => refuseClause (.literalFilter value.kind)
  | .column c => refuseClause (.columnFilter c)
  | .compiled _ => refuseClause .compiledFilter

/-- The clauses that a list of filters is the conjunction of. -/
def flattenAll : List Clause → Except Error (List Clause)
  | [] => .ok []
  | clause :: rest => do
    let clauses ← flatten clause
    let others ← flattenAll rest
    .ok (clauses ++ others)

end

mutual

/-- The engine that evaluates a clause. -/
def engine : Clause → Logged Event Engine
  | .comparison c => do
    .note (.routed c.column)
    pure c.column.engine
  | .group _ [] => .lift (refuseClause .emptyGroupFilter)
  | .group _ (first :: rest) => do
    let chosen ← engine first
    agree chosen rest
    pure chosen
  | clause => .lift (refuseClause (.filterKind clause.kind))

/-- One engine evaluates all of the clauses. -/
def agree (chosen : Engine) : List Clause → Logged Event Unit
  | [] => pure ()
  | clause :: rest => do
    let other ← engine clause
    if other = chosen then agree chosen rest else .lift (refuseClause .mixedDisjunction)

end

/-- The clauses of the search engine and those of the relational engine. -/
def split : List Clause → Logged Event (List Clause × List Clause)
  | [] => pure ([], [])
  | clause :: rest => do
    let chosen ← engine clause
    let (search, relational) ← split rest
    match chosen with
    | .search => pure (clause :: search, relational)
    | .relational => pure (search, clause :: relational)

end Clause

end HybridQuery
