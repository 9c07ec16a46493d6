import HybridQuery.Proofs.Course
import HybridQuery.Proofs.Paging
import HybridQuery.Proofs.Reports

/-!
# What the events tell

Splitting a query goes through its clauses from left to right and notes where each comparison goes,
up to the first obstacle. The way through a clause is a list of stops (`Clause.walk`): its
comparisons, the places where nothing can be evaluated, and the ends of a group's children, where it
turns out whether a child is of the same engine as the first one. Orders that are left over are gone
through in the same manner (`Query.runs_demote`).

`Query.plan_log` puts the parts together, for the events and for what is seen of them
(`Query.reports`): a search or a plan is reported only if the query has a plan, and then the reports
are those of the comparisons, the search, the orders that are left over and the plan.
-/

namespace HybridQuery

namespace Clause

/-! ## The way through a clause -/

/-- What is met on the way through a clause. -/
inductive Stop where
  | comparison (c : Comparison)
  /-- A group without children. -/
  | empty
  /-- A clause that is neither a comparison nor a group. -/
  | stray (clause : Clause)
  /-- The end of a child, which has to be of the engine of the first child of its group. -/
  | beside (first child : Clause)

/-- How planning can fail at a stop. -/
def Stop.Blocks : Stop → Error → Prop
  | .comparison _, _ => False
  | .empty, e => e = .unsupportedClause .emptyGroupFilter
  | .stray clause, e => e = .unsupportedClause (.filterKind clause.kind)
  | .beside first child, e =>
    e = .unsupportedClause .mixedDisjunction ∧
      ∃ c ∈ first.comparisons, ∃ d ∈ child.comparisons, c.column.engine ≠ d.column.engine

def Stop.IsObstacle (stop : Stop) : Prop :=
  ∃ e, stop.Blocks e

/-- A comparison goes to the engine of its column. -/
def Stop.event? : Stop → Option Event
  | .comparison c => some (.routed c.column)
  | _ => none

/-- The comparison that is met. -/
def Stop.comparison? : Stop → Option Comparison
  | .comparison c => some c
  | _ => none

theorem Stop.event?_eq_some {stop : Stop} {event : Event} (h : stop.event? = some event) :
    ∃ column, event = .routed column := by
  cases stop with
  | comparison c => exact ⟨c.column, (Option.some.inj h).symm⟩
  | empty | stray _ | beside _ _ => cases h

mutual

/-- The stops on the way through a clause, from left to right. -/
def walk : Clause → List Stop
  | .comparison c => [.comparison c]
  | .group _ [] => [.empty]
  | .group _ (first :: rest) => walk first ++ walkBeside first rest
  | clause => [.stray clause]

/-- The stops on the way through the children after the first one. -/
def walkBeside (first : Clause) : List Clause → List Stop
  | [] => []
  | child :: rest => walk child ++ .beside first child :: walkBeside first rest

end

/-- The stops on the way through clauses, one after another. -/
def walkAll (clauses : List Clause) : List Stop :=
  clauses.flatMap walk

/-- The events of comparisons. -/
def routes (comparisons : List Comparison) : List Event :=
  comparisons.map fun c => .routed c.column

theorem routes_append (comparisons others : List Comparison) :
    routes (comparisons ++ others) = routes comparisons ++ routes others :=
  List.map_append

/-- Each event of a comparison shows this comparison. -/
theorem map_report_routes (comparisons : List Comparison) :
    (routes comparisons).map Event.report = comparisons.map Comparison.report := by
  rw [routes, List.map_map]
  exact List.map_congr_left fun c _ => Event.report_routed c

theorem filterMap_event?_eq_routes : ∀ stops : List Stop,
    stops.filterMap Stop.event? = routes (stops.filterMap Stop.comparison?)
  | [] => rfl
  | .comparison c :: rest =>
    congrArg (Event.routed c.column :: ·) (filterMap_event?_eq_routes rest)
  | .empty :: rest => filterMap_event?_eq_routes rest
  | .stray _ :: rest => filterMap_event?_eq_routes rest
  | .beside _ _ :: rest => filterMap_event?_eq_routes rest

theorem filterMap_event?_walkBeside_of_forall {first : Clause} {children : List Clause}
    (h : ∀ c ∈ children, (walk c).filterMap Stop.event? = routes c.comparisons) :
    (walkBeside first children).filterMap Stop.event? = routes (comparisonsAll children) := by
  induction children with
  | nil => rfl
  | cons child rest ih =>
    obtain ⟨hchild, hrest⟩ := List.forall_mem_cons.mp h
    have hbeside : Stop.event? (.beside first child) = none := rfl
    rw [walkBeside, List.filterMap_append, List.filterMap_cons_none hbeside, hchild, ih hrest,
      comparisonsAll, routes_append]

/-- On the way through a clause are its comparisons. -/
theorem filterMap_event?_walk (clause : Clause) :
    (walk clause).filterMap Stop.event? = routes clause.comparisons := by
  induction clause with
  | comparison c => rfl
  | group combinator children ih =>
    cases children with
    | nil => rfl
    | cons first rest =>
      obtain ⟨hfirst, hrest⟩ := List.forall_mem_cons.mp ih
      rw [walk, List.filterMap_append, hfirst, filterMap_event?_walkBeside_of_forall hrest,
        comparisons, comparisonsAll, routes_append]
  | literal _ | column _ | compiled _ => rfl

theorem filterMap_event?_walkAll : ∀ clauses : List Clause,
    (walkAll clauses).filterMap Stop.event? = routes (comparisonsAll clauses)
  | [] => rfl
  | clause :: rest => by
    have ih := filterMap_event?_walkAll rest
    rw [walkAll] at ih ⊢
    rw [List.flatMap_cons, List.filterMap_append, filterMap_event?_walk, ih, comparisonsAll,
      routes_append]

/-- The course of routing comparisons. -/
def routing : Course Stop Event :=
  ⟨Stop.Blocks, Stop.event?⟩

/-- A child is an obstacle beside another one if the engines of both are different. -/
theorem isObstacle_beside {first child : Clause} {chosen other : Engine}
    (hfirst : first.Evaluates chosen) (hchild : child.Evaluates other) :
    Stop.IsObstacle (.beside first child) ↔ other ≠ chosen := by
  constructor
  · rintro ⟨-, -, c, hc, d, hd, hne⟩
    rw [hfirst.2 c hc, hchild.2 d hd] at hne
    exact hne.symm
  · intro hne
    obtain ⟨c, hc⟩ := List.exists_mem_of_ne_nil _ hfirst.1
    obtain ⟨d, hd⟩ := List.exists_mem_of_ne_nil _ hchild.1
    refine ⟨_, rfl, c, hc, d, hd, ?_⟩
    rw [hfirst.2 c hc, hchild.2 d hd]
    exact hne.symm

theorem runs_agree_of_forall {first : Clause} {chosen : Engine} (hfirst : first.Evaluates chosen)
    {children : List Clause} (h : ∀ c ∈ children, routing.Runs (walk c) (engine c)) :
    routing.Runs (walkBeside first children) (agree chosen children) := by
  induction children with
  | nil => exact .pure ()
  | cons child rest ih =>
    obtain ⟨hchild, hrest⟩ := List.forall_mem_cons.mp h
    rw [walkBeside, agree]
    refine hchild.bind fun other hother => ?_
    -- only now, at the end of the child, its engine is compared with that of the first one
    have hobstacle := isObstacle_beside hfirst (evaluates_of_engine child other hother)
    split_ifs with heq
    · have hnot : ¬routing.IsObstacle (.beside first child) := fun h => hobstacle.mp h heq
      exact (Course.Runs.skip hnot rfl ()).bind fun _ _ => ih hrest
    · obtain ⟨e, hblocks⟩ := hobstacle.mpr heq
      obtain rfl : e = .unsupportedClause .mixedDisjunction := hblocks.1
      exact .fail hblocks _

/-- Finding the engine of a clause goes through it. -/
theorem runs_engine (clause : Clause) : routing.Runs (walk clause) (engine clause) := by
  induction clause with
  | comparison c =>
    have hnot : ¬routing.IsObstacle (.comparison c) := fun ⟨_, hblocks⟩ => hblocks
    exact (Course.Runs.note hnot rfl).map fun _ => c.column.engine
  | group combinator children ih =>
    cases children with
    | nil =>
      have hblocks : routing.blocks .empty (.unsupportedClause .emptyGroupFilter) := rfl
      exact .fail hblocks []
    | cons first rest =>
      obtain ⟨hfirst, hrest⟩ := List.forall_mem_cons.mp ih
      rw [walk, engine]
      refine hfirst.bind fun chosen hchosen => ?_
      exact (runs_agree_of_forall (evaluates_of_engine first chosen hchosen) hrest).map _
  | literal _ | column _ | compiled _ =>
    have hblocks (clause : Clause) :
        routing.blocks (.stray clause) (.unsupportedClause (.filterKind clause.kind)) := rfl
    exact .fail (hblocks _) []

theorem runs_split : ∀ clauses : List Clause, routing.Runs (walkAll clauses) (split clauses)
  | [] => .pure ([], [])
  | clause :: rest => by
    refine (runs_engine clause).bind fun chosen _ => ?_
    cases chosen with
    | search => exact (runs_split rest).map fun parts => (clause :: parts.1, parts.2)
    | relational => exact (runs_split rest).map fun parts => (parts.1, clause :: parts.2)

end Clause

/-! ## Orders that are left -/

/-- Each event of an order shows this order. -/
theorem map_report_demoted (orders : List Order) :
    (orders.map Event.demoted).map Event.report = orders.map Order.report := by
  rw [List.map_map]
  exact List.map_congr_left fun o _ => Event.report_demoted o

/-- The course of orders that are left over. Without a search there is no score. -/
def Order.demotion (searched : Bool) : Course Order Event where
  blocks o e :=
    searched = false ∧ (∃ direction, o = .score direction) ∧
      e = .unsupportedClause .scoreWithoutSearch
  note? o := some (.demoted o)

namespace Query

variable {q : Query} {compiler : Compiler} {searched : Bool}

theorem notes_demotion (orders : List Order) :
    (Order.demotion searched).notes orders = orders.map .demoted :=
  congrFun List.filterMap_eq_map orders

/-- Without a search the obstacles are the orders by score. -/
theorem isObstacle_demotion :
    (Order.demotion false).IsObstacle = fun o => ∃ direction, o = .score direction := by
  funext o
  refine propext ⟨?_, fun hscore => ⟨_, rfl, hscore, rfl⟩⟩
  rintro ⟨e, -, hscore, -⟩
  exact hscore

theorem runs_demote (searched : Bool) : ∀ orders : List Order,
    (Order.demotion searched).Runs orders (demote searched orders)
  | [] => .pure ()
  | .column c direction :: rest => by
    have hnot : ¬(Order.demotion searched).IsObstacle (.column c direction) := by
      rintro ⟨e, hblocks⟩
      obtain ⟨-, ⟨_, hscore⟩, -⟩ := hblocks
      cases hscore
    exact (Course.Runs.note hnot rfl).bind fun _ _ => runs_demote searched rest
  | .score direction :: rest => by
    rw [demote]
    split_ifs with hsearched
    · have hnot : ¬(Order.demotion searched).IsObstacle (.score direction) := by
        rintro ⟨e, hblocks⟩
        rw [hsearched] at hblocks
        cases hblocks.1
      exact (Course.Runs.note hnot rfl).bind fun _ _ => runs_demote searched rest
    · have hblocks : (Order.demotion searched).blocks (.score direction)
          (.unsupportedClause .scoreWithoutSearch) :=
        ⟨Bool.eq_false_iff.mpr hsearched, ⟨direction, rfl⟩, rfl⟩
      exact .fail hblocks rest

/-! ## Searches -/

/-- A search is reported when it is compiled. -/
theorem log_search {clauses : List Clause} {search : Option Predicate}
    (h : (q.search compiler clauses).outcome = .ok search) :
    (q.search compiler clauses).log = search.toList.map .compiled := by
  cases clauses with
  | nil =>
    cases h
    rfl
  | cons first rest =>
    obtain ⟨p, hp, h⟩ := Logged.bind_eq_ok.mp h
    cases h
    exact Logged.log_bind hp _

theorem log_search_of_error {clauses : List Clause} {e : Error}
    (h : (q.search compiler clauses).outcome = .error e) :
    (q.search compiler clauses).log = [] := by
  obtain ⟨hne, hcompile⟩ := search_eq_error h
  obtain ⟨first, rest, rfl⟩ := List.exists_cons_of_ne_nil hne
  exact congrArg Logged.log (Logged.bind_of_error (x := .lift _) hcompile _)

theorem search_conjunctsOf_eq_error {e : Error} (hne : q.conjunctsOf .search ≠ [])
    (h : q.compileSearch compiler = .error e) :
    (q.search compiler (q.conjunctsOf .search)).outcome = .error e := by
  rw [compileSearch, ← fused_true] at h
  generalize q.conjunctsOf .search = clauses at hne h ⊢
  obtain ⟨first, rest, rfl⟩ := List.exists_cons_of_ne_nil hne
  exact Logged.bind_eq_error.mpr (.inl h)

/-! ## Plans -/

/-- The stops on the way through the conjuncts of a query. -/
def stops (q : Query) : List Clause.Stop :=
  Clause.walkAll q.conjuncts

/-- A plan with this search and these filters. -/
def planWith (q : Query) (search : Option Predicate) (filters : List Clause) : Plan where
  search := search
  filters := filters
  orders := q.relationalOrders ++ q.demoted search.isSome
  limit := if (q.fused search.isSome).isSome then none else q.limit
  offset := if (q.fused search.isSome).isSome then none else q.offset

/-- What is left to do when the filters are split. -/
def complete (q : Query) (compiler : Compiler) : Logged Event Plan := do
  let search ← q.search compiler (q.conjunctsOf .search)
  demote search.isSome (q.demoted search.isSome)
  .note (.planned (q.planWith search (q.conjunctsOf .relational)))
  pure (q.planWith search (q.conjunctsOf .relational))

/-- What cannot be flattened leaves no trace. -/
theorem plan_of_not_isCondition (compiler : Compiler)
    (h : ∃ clause ∈ q.conjuncts, ¬clause.IsCondition) :
    ∃ e, q.plan compiler = ⟨[], .error e⟩ := by
  cases hflatten : Clause.flattenAll q.filters with
  | error e => exact ⟨e, Logged.bind_of_error (x := .lift _) hflatten _⟩
  | ok clauses =>
    obtain rfl : clauses = q.conjuncts := Clause.eq_conjuncts_of_flattenAll hflatten
    obtain ⟨clause, hmem, hclause⟩ := h
    exact absurd (Clause.flattenAll_eq_ok_iff.mp hflatten clause hmem) hclause

/-- Routing ends at the first obstacle. -/
theorem plan_of_obstacle (compiler : Compiler) {before : List Clause.Stop} {stop : Clause.Stop}
    (hconditions : ∀ clause ∈ q.conjuncts, clause.IsCondition)
    (h : First Clause.Stop.IsObstacle before stop q.stops) :
    ∃ e, stop.Blocks e ∧ q.plan compiler = ⟨before.filterMap Clause.Stop.event?, .error e⟩ := by
  obtain ⟨e, hblocks, houtcome, hlog⟩ := (Clause.runs_split q.conjuncts).error before stop h
  have hflatten : Clause.flattenAll q.filters = .ok q.conjuncts :=
    Clause.flattenAll_eq_ok_iff.mpr hconditions
  have hplan : q.plan compiler = ⟨(Clause.split q.conjuncts).log, .error e⟩ := by
    rw [Query.plan, hflatten]
    exact Logged.bind_of_error houtcome _
  rw [hlog] at hplan
  exact ⟨e, hblocks, hplan⟩

/-- A query can be split if nothing in it is an obstacle. -/
theorem splittable_iff_stops : q.Splittable ↔ ∀ stop ∈ q.stops, ¬stop.IsObstacle := by
  rw [splittable_iff]
  refine Iff.trans ?_ (Clause.runs_split q.conjuncts).isOk_iff
  constructor
  · exact fun ⟨_, hparts⟩ => ⟨_, hparts⟩
  · rintro ⟨⟨searched, filters⟩, hparts⟩
    obtain ⟨hall, rfl, rfl⟩ := Clause.split_eq_filter hparts
    refine ⟨Clause.flattenAll_eq_ok_iff.mpr fun clause hclause => ?_, hparts⟩
    -- a clause that something is compared in is a comparison or a group
    obtain ⟨e, hne, -⟩ := hall clause hclause
    cases clause with
    | comparison _ | group _ _ => trivial
    | literal _ | column _ | compiled _ => exact absurd rfl hne

/-- Without an obstacle all comparisons are routed. -/
theorem log_split (h : q.Splittable) :
    (Clause.split q.conjuncts).log = Clause.routes q.comparisons := by
  rw [((Clause.runs_split q.conjuncts).ok (splittable_iff_stops.mp h)).2]
  exact Clause.filterMap_event?_walkAll q.conjuncts

theorem plan_of_splittable (h : q.Splittable) : q.plan compiler =
    ⟨Clause.routes q.comparisons ++ (q.complete compiler).log, (q.complete compiler).outcome⟩ := by
  obtain ⟨hclauses, hsplit⟩ := splittable_iff.mp h
  rw [Query.plan, hclauses, ← log_split h]
  exact Logged.bind_of_ok hsplit _

theorem complete_of_search_error {e : Error}
    (h : (q.search compiler (q.conjunctsOf .search)).outcome = .error e) :
    q.complete compiler = ⟨[], .error e⟩ := by
  rw [complete, Logged.bind_of_error h, log_search_of_error h]

theorem complete_of_demote_error {search : Option Predicate} {e : Error}
    (h : (q.search compiler (q.conjunctsOf .search)).outcome = .ok search)
    (hdemote : (demote search.isSome (q.demoted search.isSome)).outcome = .error e) :
    q.complete compiler = ⟨search.toList.map .compiled ++
      (demote search.isSome (q.demoted search.isSome)).log, .error e⟩ := by
  rw [complete, Logged.bind_of_ok h, Logged.bind_of_error hdemote, log_search h]

theorem complete_of_ok {search : Option Predicate}
    (h : (q.search compiler (q.conjunctsOf .search)).outcome = .ok search)
    (hdemote : (demote search.isSome (q.demoted search.isSome)).outcome = .ok ()) :
    q.complete compiler = ⟨search.toList.map .compiled ++
      ((q.demoted search.isSome).map .demoted ++
        [.planned (q.planWith search (q.conjunctsOf .relational))]),
      .ok (q.planWith search (q.conjunctsOf .relational))⟩ := by
  have hruns := runs_demote search.isSome (q.demoted search.isSome)
  have hlog := (hruns.ok (hruns.isOk_iff.mp ⟨(), hdemote⟩)).2
  rw [complete, Logged.bind_of_ok h, Logged.bind_of_ok hdemote, log_search h, hlog, notes_demotion]
  rfl

/-- Without a search the first order by score is refused. -/
theorem complete_of_score {before : List Order} {o : Order} (hnil : q.conjunctsOf .search = [])
    (h : First (fun o => ∃ direction, o = .score direction) before o q.searchOrders) :
    q.complete compiler =
      ⟨before.map .demoted, .error (.unsupportedClause .scoreWithoutSearch)⟩ := by
  have hsearch : (q.search compiler (q.conjunctsOf .search)).outcome = .ok none :=
    search_conjunctsOf_eq_ok_iff.mpr (.inl ⟨hnil, rfl⟩)
  rw [← isObstacle_demotion, ← demoted_false] at h
  obtain ⟨e, ⟨-, -, rfl⟩, houtcome, hlog⟩ := (runs_demote false _).error before o h
  rw [complete_of_demote_error hsearch houtcome, ← notes_demotion, ← hlog]
  rfl

/-- The orders of the search engine that the relational engine gets are those that are left. -/
theorem filter_isSearch_orders (searched : Bool) :
    (q.relationalOrders ++ q.demoted searched).filter Order.isSearch = q.demoted searched := by
  have hsub : q.demoted searched ⊆ q.searchOrders := by
    rw [demoted_eq_drop]
    exact List.drop_subset _ _
  have hrelational : q.relationalOrders.filter Order.isSearch = [] := by
    simp [relationalOrders]
  have hdemoted : (q.demoted searched).filter Order.isSearch = q.demoted searched :=
    List.filter_eq_self.mpr fun o ho => (List.mem_filter.mp (hsub ho)).2
  rw [List.filter_append, hrelational, hdemoted, List.nil_append]

/-- When the search or an order is refused, nothing but orders may have been noted. -/
theorem log_complete_of_error {e : Error} (h : (q.complete compiler).outcome = .error e) :
    ∃ orders : List Order, (q.complete compiler).log = orders.map .demoted := by
  rcases Logged.bind_eq_error.mp h with hsearch | ⟨search, hsearch, h⟩
  · exact ⟨[], by rw [complete_of_search_error hsearch]; rfl⟩
  rcases Logged.bind_eq_error.mp h with hdemote | ⟨⟨⟩, -, h⟩
  · have hruns := runs_demote search.isSome (q.demoted search.isSome)
    cases search with
    | none =>
      obtain ⟨orders, hlog⟩ := hruns.exists_notes
      rw [complete_of_demote_error hsearch hdemote, hlog, notes_demotion]
      exact ⟨orders, rfl⟩
    | some p =>
      -- with a search every order can be left over
      obtain ⟨⟨⟩, hok⟩ := hruns.isOk_iff.mpr fun _ _ ⟨_, hnone, _⟩ => by cases hnone
      rw [hok] at hdemote
      cases hdemote
  · cases h

/-- When planning fails, comparisons may have been routed and orders left over. -/
theorem log_of_error {e : Error} (h : (q.plan compiler).outcome = .error e) :
    ∃ (passed : List Clause.Stop) (orders : List Order),
      (q.plan compiler).log = passed.filterMap Clause.Stop.event? ++ orders.map .demoted := by
  by_cases hsplittable : q.Splittable
  · rw [plan_of_splittable hsplittable] at h ⊢
    obtain ⟨orders, hlog⟩ := log_complete_of_error h
    refine ⟨q.stops, orders, ?_⟩
    rw [hlog, stops, Clause.filterMap_event?_walkAll, comparisons]
  by_cases hconditions : ∀ clause ∈ q.conjuncts, clause.IsCondition
  · obtain ⟨stop, hmem, hstop⟩ : ∃ stop ∈ q.stops, stop.IsObstacle := by
      simpa [splittable_iff_stops] using hsplittable
    obtain ⟨before, first, hfirst⟩ := First.exists_of_mem hmem hstop
    obtain ⟨fault, -, hplan⟩ := plan_of_obstacle compiler hconditions hfirst
    exact ⟨before, [], by rw [hplan, List.map_nil, List.append_nil]⟩
  · obtain ⟨fault, hplan⟩ := plan_of_not_isCondition compiler (by simpa using hconditions)
    exact ⟨[], [], by rw [hplan]; rfl⟩

theorem event_of_error {e : Error} (h : (q.plan compiler).outcome = .error e) {event : Event}
    (hevent : event ∈ (q.plan compiler).log) :
    (∃ column, event = .routed column) ∨ ∃ order, event = .demoted order := by
  obtain ⟨passed, orders, hlog⟩ := log_of_error h
  rw [hlog, List.mem_append, List.mem_filterMap, List.mem_map] at hevent
  rcases hevent with ⟨stop, -, hstop⟩ | ⟨order, -, horder⟩
  · exact .inl (Clause.Stop.event?_eq_some hstop)
  · exact .inr ⟨order, horder.symm⟩

end Query

/-- What is seen of planning a query. -/
def Query.reports (q : Query) (compiler : Compiler) : List Report :=
  (q.plan compiler).log.map Event.report

/-- What the log of planning a query tells. -/
structure Query.Traces (q : Query) (compiler : Compiler) : Prop where
  /-- On success there are the comparisons, the search, the orders of the search engine that are
  left over, and the plan. -/
  planned : ∀ plan, (q.plan compiler).outcome = .ok plan →
    (q.plan compiler).log = Clause.routes q.comparisons ++ plan.search.toList.map .compiled ++
      (plan.orders.filter Order.isSearch).map .demoted ++ [.planned plan]
  /-- Each of them is seen with its data. -/
  shown : ∀ plan, (q.plan compiler).outcome = .ok plan →
    q.reports compiler = q.comparisons.map Comparison.report ++
      plan.search.toList.map Predicate.report ++
        (plan.orders.filter Order.isSearch).map Order.report ++ [plan.report]
  search : ∀ plan, (q.plan compiler).outcome = .ok plan →
    (plan.search.isSome ↔ ∃ c ∈ q.comparisons, c.column.engine = .search)
  /-- On failure nothing is reported as done. -/
  failed : ∀ e, (q.plan compiler).outcome = .error e →
    (∀ p, .compiled p ∉ (q.plan compiler).log) ∧ ∀ plan, .planned plan ∉ (q.plan compiler).log
  /-- No message says so either. -/
  unseen : ∀ e, (q.plan compiler).outcome = .error e → ∀ report ∈ q.reports compiler,
    report.message ≠ "Compiled search query" ∧ report.message ≠ "Materialized query"
  /-- What cannot be flattened leaves no trace. -/
  rejected : (∃ clause ∈ q.conjuncts, ¬clause.IsCondition) →
    ∃ e, q.plan compiler = ⟨[], .error e⟩
  /-- At an obstacle only the comparisons in front of it are routed. -/
  blocked : (∀ clause ∈ q.conjuncts, clause.IsCondition) →
    ∀ before stop, First Clause.Stop.IsObstacle before stop q.stops →
      ∃ e, stop.Blocks e ∧ q.plan compiler = ⟨before.filterMap Clause.Stop.event?, .error e⟩ ∧
        q.reports compiler = (before.filterMap Clause.Stop.comparison?).map Comparison.report
  /-- Without an obstacle all comparisons are routed, but the search may not compile. -/
  uncompiled : (∀ stop ∈ q.stops, ¬stop.IsObstacle) → q.conjunctsOf .search ≠ [] →
    ∀ e, q.compileSearch compiler = .error e →
      q.plan compiler = ⟨Clause.routes q.comparisons, .error e⟩ ∧
        q.reports compiler = q.comparisons.map Comparison.report
  /-- Without a search the first order by score is refused. -/
  unscored : (∀ stop ∈ q.stops, ¬stop.IsObstacle) →
    (∀ c ∈ q.comparisons, c.column.engine ≠ .search) →
    ∀ before o, First (fun o => ∃ direction, o = .score direction) before o
      (q.orders.filter Order.isSearch) →
      q.plan compiler = ⟨Clause.routes q.comparisons ++ before.map .demoted,
          .error (.unsupportedClause .scoreWithoutSearch)⟩ ∧
        q.reports compiler = q.comparisons.map Comparison.report ++ before.map Order.report

/-- The events of a query with a plan. -/
theorem Query.log_of_ok {q : Query} {compiler : Compiler} {plan : Plan}
    (h : (q.plan compiler).outcome = .ok plan) :
    (q.plan compiler).log = Clause.routes q.comparisons ++ plan.search.toList.map .compiled ++
      (plan.orders.filter Order.isSearch).map .demoted ++ [.planned plan] := by
  obtain ⟨hsplittable, search, hsearch, hscore, rfl⟩ := plan_eq_ok_iff.mp h
  have hcomplete := complete_of_ok hsearch (demote_demoted_eq_ok_iff.mpr hscore)
  rw [plan_of_splittable hsplittable, hcomplete, filter_isSearch_orders]
  simp only [List.append_assoc]
  rfl

/-- The log of planning a query tells what was done, and shows it with its data. A search and a plan
are reported only if the query has a plan. -/
theorem Query.plan_log (q : Query) (compiler : Compiler) : q.Traces compiler where
  planned plan h := log_of_ok h
  shown plan h := by
    have hcompiled : (plan.search.toList.map Event.compiled).map Event.report =
        plan.search.toList.map Predicate.report := List.map_map
    simp only [reports, log_of_ok h, List.map_append, List.map_cons, List.map_nil,
      Clause.map_report_routes, hcompiled, map_report_demoted, Event.report_planned]
  search plan h := by
    obtain ⟨hsplittable, search, hsearch, -, rfl⟩ := plan_eq_ok_iff.mp h
    rw [← conjunctsOf_ne_nil_iff hsplittable, Ne, ← isSome_search_eq_false_iff hsearch,
      Bool.not_eq_false]
  failed e h := by
    constructor
    · intro p hp
      rcases event_of_error h hp with ⟨_, heq⟩ | ⟨_, heq⟩ <;> cases heq
    · intro plan hplan
      rcases event_of_error h hplan with ⟨_, heq⟩ | ⟨_, heq⟩ <;> cases heq
  unseen e h report hreport := by
    obtain ⟨event, hevent, rfl⟩ := List.mem_map.mp hreport
    rcases event_of_error h hevent with ⟨column, rfl⟩ | ⟨order, rfl⟩
    · exact ⟨by simp [Event.report, Event.message], by simp [Event.report, Event.message]⟩
    · exact ⟨by simp [Event.report, Event.message], by simp [Event.report, Event.message]⟩
  rejected := plan_of_not_isCondition compiler
  blocked hconditions before stop hfirst := by
    obtain ⟨e, hblocks, hplan⟩ := plan_of_obstacle compiler hconditions hfirst
    refine ⟨e, hblocks, hplan, ?_⟩
    rw [reports, hplan, Clause.filterMap_event?_eq_routes, Clause.map_report_routes]
  uncompiled hstops hne e hcompile := by
    have hsplittable := splittable_iff_stops.mpr hstops
    have hplan : q.plan compiler = ⟨Clause.routes q.comparisons, .error e⟩ := by
      rw [plan_of_splittable hsplittable,
        complete_of_search_error (search_conjunctsOf_eq_error hne hcompile), List.append_nil]
    refine ⟨hplan, ?_⟩
    rw [reports, hplan, Clause.map_report_routes]
  unscored hstops hnone before o hfirst := by
    have hsplittable := splittable_iff_stops.mpr hstops
    have hnil : q.conjunctsOf .search = [] := by
      by_contra hne
      obtain ⟨c, hc, hengine⟩ := (conjunctsOf_ne_nil_iff hsplittable .search).mp hne
      exact hnone c hc hengine
    have hplan : q.plan compiler = ⟨Clause.routes q.comparisons ++ before.map .demoted,
        .error (.unsupportedClause .scoreWithoutSearch)⟩ := by
      rw [plan_of_splittable hsplittable, complete_of_score hnil hfirst]
    refine ⟨hplan, ?_⟩
    rw [reports, hplan, List.map_append, Clause.map_report_routes, map_report_demoted]

/-- A choice between columns of both engines is refused when its second child has been looked at,
and the third one is not. A conjunction of them has a plan, in which two orders are left over,
because there is no limit. -/
theorem Query.plan_log_mixed :
    let name : Comparison :=
      ⟨⟨"products", "name", .search⟩, .matches, .literal (.string "tea")⟩
    let price : Comparison :=
      ⟨⟨"products", "price", .relational⟩, .lt, .literal (.integer 5)⟩
    let tags : Comparison :=
      ⟨⟨"products", "tags", .search⟩, .eq, .literal (.string "green")⟩
    let choice : Query :=
      { filters := [.any [.comparison name, .all [.comparison price], .comparison tags]] }
    let both : Query :=
      { filters := [.comparison tags, .all [.comparison price]]
        orders := [.column ⟨"products", "rating", .search⟩ .descending, .score .ascending]
        offset := some 20 }
    First Clause.Stop.IsObstacle [.comparison name, .comparison price]
      (.beside (.comparison name) (.all [.comparison price])) choice.stops ∧
    choice.plan {} =
      ⟨[.routed ⟨"products", "name", .search⟩, .routed ⟨"products", "price", .relational⟩],
        .error (.unsupportedClause .mixedDisjunction)⟩ ∧
    choice.reports {} =
      [⟨.trace, "Routing comparison", [("column", "products.name"), ("route", "Search")]⟩,
        ⟨.trace, "Routing comparison", [("column", "products.price"), ("route", "Relational")]⟩] ∧
    both.reports {} =
      [⟨.trace, "Routing comparison", [("column", "products.tags"), ("route", "Search")]⟩,
        ⟨.trace, "Routing comparison", [("column", "products.price"), ("route", "Relational")]⟩,
        ⟨.debug, "Compiled search query",
          [("table", "products"), ("query", "tags:green"), ("format_args", "0")]⟩,
        ⟨.trace, "Falling back to relational ordering",
          [("demoted", "Column \x7b column: Column \x7b table: " ++ inspectText "products" ++
            ", name: " ++ inspectText "rating" ++
              ", kind: Search \x7d, direction: Descending \x7d")]⟩,
        ⟨.trace, "Falling back to relational ordering",
          [("demoted", "Score \x7b direction: Ascending \x7d")]⟩,
        ⟨.debug, "Materialized query", [("search", "true"), ("filters", "1"), ("order", "2"),
          ("limit", "None"), ("offset", "Some(20)")]⟩] := by
  intro name price tags choice both
  have hfirst : First Clause.Stop.IsObstacle [.comparison name, .comparison price]
      (.beside (.comparison name) (.all [.comparison price])) choice.stops := by
    refine ⟨⟨_, rfl⟩, by simp [Clause.Stop.IsObstacle, Clause.Stop.Blocks], ?_⟩
    exact ⟨_, rfl, _, List.mem_cons_self, _, List.mem_cons_self, by decide⟩
  obtain ⟨e, hblocks, hplan, hreports⟩ :=
    (Query.plan_log choice {}).blocked (List.forall_mem_singleton.mpr trivial) _ _ hfirst
  obtain rfl := hblocks.1
  have hboth : (both.plan {}).outcome = .ok
      { search := some ⟨"products", "tags:green", []⟩, filters := [.comparison price]
        orders := both.orders, limit := none, offset := some 20 } := by
    simp only [both, tags, price]
    rfl
  have htext (front : String) :
      front ++ ", kind: Search \x7d, direction: Descending \x7d" =
        front ++ ", kind: " ++ "Search" ++ " \x7d, direction: " ++ "Descending" ++ " \x7d" := by
    simp only [String.append_assoc]
    rfl
  refine ⟨hfirst, hplan, hreports, ((Query.plan_log both {}).shown _ hboth).trans ?_⟩
  simp only [both, tags, price, htext]
  rfl

end HybridQuery
