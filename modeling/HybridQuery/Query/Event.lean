import HybridQuery.Query.Basic
import HybridQuery.Text.Inspect

/-!
# Events

What can be observed while a query is split: where each comparison goes, the compiled search,
each order that falls back to the relational engine, and the outcome. An event is written as
a message with named fields.
-/

namespace HybridQuery

inductive Level where
  | trace
  | debug
  deriving DecidableEq, Repr

def Level.text : Level → String
  | .trace => "trace"
  | .debug => "debug"

/-- A step of splitting a query. -/
inductive Event where
  /-- A comparison goes to the engine of this column. -/
  | routed (column : Column)
  | compiled (predicate : Predicate)
  /-- An order that the search has no room for. -/
  | demoted (order : Order)
  | planned (plan : Plan)

/-! ## Values laid open

Fields show a value with its structure, and a text in it between double quotes. -/

def Engine.inspect (e : Engine) : String :=
  e.name

def Direction.inspect : Direction → String
  | .ascending => "Ascending"
  | .descending => "Descending"

def Column.inspect (c : Column) : String :=
  "Column \x7b table: " ++ inspectText c.table ++ ", name: " ++ inspectText c.name ++
    ", kind: " ++ c.engine.inspect ++ " \x7d"

def Order.inspect : Order → String
  | .column c direction =>
    "Column \x7b column: " ++ c.inspect ++ ", direction: " ++ direction.inspect ++ " \x7d"
  | .score direction => "Score \x7b direction: " ++ direction.inspect ++ " \x7d"

def inspectCount : Option UInt64 → String
  | none => "None"
  | some n => "Some(" ++ naturalText n.toNat ++ ")"

namespace Event

def level : Event → Level
  | .routed _ => .trace
  | .compiled _ => .debug
  | .demoted _ => .trace
  | .planned _ => .debug

def message : Event → String
  | .routed _ => "Routing comparison"
  | .compiled _ => "Compiled search query"
  | .demoted _ => "Falling back to relational ordering"
  | .planned _ => "Materialized query"

/-- The fields of an event, each with its text. -/
def fields : Event → List (String × String)
  | .routed c => [("column", c.qualified), ("route", c.engine.inspect)]
  | .compiled p =>
    [("table", p.table), ("query", p.query), ("format_args", naturalText p.arguments.length)]
  | .demoted order => [("demoted", order.inspect)]
  | .planned plan =>
    [("search", if plan.search.isSome then "true" else "false"),
      ("filters", naturalText plan.filters.length), ("order", naturalText plan.orders.length),
      ("limit", inspectCount plan.limit), ("offset", inspectCount plan.offset)]

end Event

end HybridQuery
