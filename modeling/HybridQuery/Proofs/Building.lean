import HybridQuery.Query.Basic
import Mathlib.Tactic.Common

/-!
# Queries step by step

A query is built in steps (`Query.build`), each of which adds a filter or an order, or sets the
limit or the offset. What comes of the steps is the filters and the orders in the order in which
they were added, and the limit and the offset that were set last (`Query.build_eq`).
-/

namespace HybridQuery

namespace Query

/-- A step in the making of a query. -/
inductive Step where
  | filter (clause : Clause)
  | order (order : Order)
  | limit (limit : UInt64)
  | offset (offset : UInt64)

namespace Step

def filter? : Step → Option Clause
  | .filter clause => some clause
  | _ => none

def order? : Step → Option Order
  | .order o => some o
  | _ => none

def limit? : Step → Option UInt64
  | .limit n => some n
  | _ => none

def offset? : Step → Option UInt64
  | .offset n => some n
  | _ => none

end Step

/-- The query after one more step. -/
def after (q : Query) : Step → Query
  | .filter clause => q.addFilter clause
  | .order order => q.addOrder order
  | .limit limit => q.setLimit limit
  | .offset offset => q.setOffset offset

/-- The query that these steps make. -/
def build (steps : List Step) : Query :=
  steps.foldl after empty

theorem foldl_after : ∀ (steps : List Step) (q : Query), steps.foldl after q =
    { filters := q.filters ++ steps.filterMap Step.filter?
      orders := q.orders ++ steps.filterMap Step.order?
      limit := (steps.reverse.findSome? Step.limit?).or q.limit
      offset := (steps.reverse.findSome? Step.offset?).or q.offset }
  | [], q => by simp
  | step :: rest, q => by
    rw [List.foldl_cons, foldl_after rest, List.reverse_cons, List.findSome?_append,
      List.findSome?_append, List.filterMap_cons, List.filterMap_cons]
    cases step with
    | filter clause => simp [after, addFilter, Step.filter?, Step.order?, Step.limit?, Step.offset?]
    | order o => simp [after, addOrder, Step.filter?, Step.order?, Step.limit?, Step.offset?]
    | limit n => simp [after, setLimit, Step.filter?, Step.order?, Step.limit?, Step.offset?]
    | offset n => simp [after, setOffset, Step.filter?, Step.order?, Step.limit?, Step.offset?]

/-- Filters and orders add up, of limits and offsets the last one counts. -/
theorem build_eq (steps : List Step) : build steps =
    { filters := steps.filterMap Step.filter?
      orders := steps.filterMap Step.order?
      limit := steps.reverse.findSome? Step.limit?
      offset := steps.reverse.findSome? Step.offset? } := by
  rw [build, foldl_after]
  simp [empty]

end Query

end HybridQuery
