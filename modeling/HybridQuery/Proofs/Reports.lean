import HybridQuery.Clause
import HybridQuery.Query.Event

/-!
# What events show

Of an event only its report is seen: a level, a message and fields with their texts
(`Event.report`). Here the report is told by what the event is about. A comparison shows the names
of its column and the engine that it goes to (`Comparison.report`), a search its table, its text and
how many arguments it has (`Predicate.report`), and an order all of its parts (`Order.report`). A
plan shows whether it has a search, how many filters and orders are left, and the limit and the
offset (`Plan.report`).

Events are written with these fields and no others (`Event.report_routed`, `Event.report_compiled`,
`Event.report_demoted`, `Event.report_planned`).
-/

namespace HybridQuery

/-- What is seen of an event. -/
structure Report where
  level : Level
  message : String
  fields : List (String × String)
  deriving DecidableEq, Repr

def Event.report (event : Event) : Report :=
  ⟨event.level, event.message, event.fields⟩

/-! ## Texts of fields -/

/-- The engine by its name. -/
def engineText (engine : Engine) : String :=
  if engine = .search then "Search" else "Relational"

def directionText (direction : Direction) : String :=
  if direction = .ascending then "Ascending" else "Descending"

/-- A number of rows, if there is one. -/
def countText (count : Option UInt64) : String :=
  count.elim "None" fun n => "Some(" ++ n.toNat.repr ++ ")"

theorem engineText_eq_inspect (engine : Engine) : engineText engine = engine.inspect := by
  cases engine <;> rfl

theorem directionText_eq_inspect (direction : Direction) :
    directionText direction = direction.inspect := by
  cases direction <;> rfl

theorem countText_eq_inspectCount (count : Option UInt64) :
    countText count = inspectCount count := by
  cases count <;> rfl

/-! ## Reports -/

/-- A comparison shows its column and its engine. -/
def Comparison.report (c : Comparison) : Report where
  level := .trace
  message := "Routing comparison"
  fields := [("column", c.column.table ++ "." ++ c.column.name),
    ("route", engineText c.column.engine)]

/-- A search shows its table, its text, and the number of its arguments. -/
def Predicate.report (p : Predicate) : Report where
  level := .debug
  message := "Compiled search query"
  fields := [("table", p.table), ("query", p.query), ("format_args", p.arguments.length.repr)]

/-- An order with the names of its parts, and texts between quotes. -/
def Order.laidOpen : Order → String
  | .column c direction =>
    "Column \x7b column: Column \x7b table: " ++ inspectText c.table ++ ", name: " ++
      inspectText c.name ++ ", kind: " ++ engineText c.engine ++ " \x7d, direction: " ++
        directionText direction ++ " \x7d"
  | .score direction => "Score \x7b direction: " ++ directionText direction ++ " \x7d"

/-- An order shows all of its parts. -/
def Order.report (o : Order) : Report where
  level := .trace
  message := "Falling back to relational ordering"
  fields := [("demoted", o.laidOpen)]

/-- A plan shows whether it searches, how many filters and orders it has, its limit and its
offset. -/
def Plan.report (plan : Plan) : Report where
  level := .debug
  message := "Materialized query"
  fields := [("search", toString plan.search.isSome), ("filters", plan.filters.length.repr),
    ("order", plan.orders.length.repr), ("limit", countText plan.limit),
    ("offset", countText plan.offset)]

/-- A column stands in an order as it stands alone. -/
theorem Order.laidOpen_eq_inspect (o : Order) : o.laidOpen = o.inspect := by
  cases o with
  | column c direction =>
    have htext (table name kind direction : String) :
        "Column \x7b column: Column \x7b table: " ++ table ++ ", name: " ++ name ++ ", kind: " ++
            kind ++ " \x7d, direction: " ++ direction ++ " \x7d" =
          "Column \x7b column: " ++ ("Column \x7b table: " ++ table ++ ", name: " ++ name ++
            ", kind: " ++ kind ++ " \x7d") ++ ", direction: " ++ direction ++ " \x7d" := by
      rw [← String.toList_inj]
      simp
    unfold laidOpen inspect Column.inspect
    simp only [htext, engineText_eq_inspect, directionText_eq_inspect]
  | score direction =>
    unfold laidOpen inspect
    simp only [directionText_eq_inspect]

namespace Event

theorem report_routed (c : Comparison) : (routed c.column).report = c.report := by
  rw [Comparison.report, engineText_eq_inspect]
  rfl

theorem report_compiled (p : Predicate) : (compiled p).report = p.report := rfl

theorem report_demoted (o : Order) : (demoted o).report = o.report := by
  rw [Order.report, Order.laidOpen_eq_inspect]
  rfl

theorem report_planned (plan : Plan) : (planned plan).report = plan.report := by
  have hsearch : toString plan.search.isSome = if plan.search.isSome then "true" else "false" := by
    cases plan.search <;> rfl
  rw [Plan.report, hsearch, countText_eq_inspectCount, countText_eq_inspectCount]
  rfl

end Event

end HybridQuery
