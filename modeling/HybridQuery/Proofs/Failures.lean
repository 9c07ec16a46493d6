import HybridQuery.Proofs.Notes
import HybridQuery.Proofs.Planning
import HybridQuery.Relational.Select

/-!
# Which errors are left

The stages of a query can fail in more ways than one after another they do. What planning refuses
does not reach the compiler: all that is compiled are comparisons in groups that are not empty, so
nothing but a parameter or a second table can be at fault (`Compiler.onlyFails_compile`). That
there is a table at all is since every conjunct compares something, and the table of each comparison
is one of the draft (`Compiler.tables_of_draft`). In the same way nothing that is no condition is
left to the relational engine, and no score without a search (`Select.onlyFails_apply`).

`Query.plan_failures` puts the stages together.
-/

namespace HybridQuery

/-- A parameter is at fault. -/
def Error.OfParameter (e : Error) : Prop :=
  ∃ fault, e = .invalidParameter fault

/-! ## Rendering -/

theorem onlyFails_renderNumber (x : Binary64) :
    OnlyFails Error.OfParameter (renderNumber x) := by
  unfold renderNumber
  split_ifs
  · exact .ok _
  · exact .error ⟨_, rfl⟩

theorem DateTime.onlyFails_text (t : DateTime) : OnlyFails Error.OfParameter t.text := by
  unfold text
  split
  · exact .ok _
  · exact .error ⟨_, rfl⟩

theorem onlyFails_renderLiteral (value : Literal) :
    OnlyFails Error.OfParameter (renderLiteral value) := by
  cases value with
  | float x => exact onlyFails_renderNumber x
  | dateTime t => exact (DateTime.onlyFails_text t).map escape
  | boolean b => cases b <;> exact .ok _
  | pattern _ | table _ => exact .error ⟨_, rfl⟩
  | string _ | integer _ | null | raw _ | phrase _ => exact .ok _

theorem onlyFails_mapM {kind : Error → Prop} {α β : Type} {f : α → Except Error β} {as : List α}
    (h : ∀ a ∈ as, OnlyFails kind (f a)) : OnlyFails kind (as.mapM f) := by
  have heach : OnlyFails kind (Logged.each (ω := Unit) (fun a => .lift (f a)) as).outcome :=
    Logged.onlyFails_each h
  rwa [← Logged.lift_mapM] at heach

theorem onlyFails_renderOperand (operand : Operand) :
    OnlyFails Error.OfParameter (renderOperand operand).outcome := by
  cases operand with
  | literal value => exact onlyFails_renderLiteral value
  | column c => exact .ok _
  | list values =>
    exact (onlyFails_mapM fun value _ => onlyFails_renderLiteral value).bind fun _ => .ok _

section Comparisons

variable (nested : Clause → Rendered) (column : Column)

theorem onlyFails_withOperand (lead : String) (operand : Operand) :
    OnlyFails Error.OfParameter ((Script.withOperand lead operand).run nested).outcome := by
  rw [Script.run_withOperand]
  exact (onlyFails_renderOperand operand).logged_bind fun _ => .ok _

theorem onlyFails_refuse (fault : ParameterFault) :
    OnlyFails Error.OfParameter ((Script.refuse fault).run nested).outcome :=
  .error ⟨fault, rfl⟩

theorem onlyFails_between (operand : Operand) :
    OnlyFails Error.OfParameter ((Script.between column operand).run nested).outcome := by
  match operand with
  | .literal _ | .column _ | .list [] | .list [_] | .list (_ :: _ :: _ :: _) =>
    exact onlyFails_refuse nested _
  | .list [low, high] =>
    rw [Script.between]
    split_ifs
    · exact onlyFails_refuse nested _
    · exact onlyFails_refuse nested _
    · exact (onlyFails_renderLiteral low).bind fun _ =>
        (onlyFails_renderLiteral high).bind fun _ => .ok _

theorem onlyFails_like (operand : Operand) :
    OnlyFails Error.OfParameter ((Script.like column operand).run nested).outcome := by
  have hquoted (value : Literal) : OnlyFails Error.OfParameter
      (renderLiteral value >>= fun text => .ok (column.name ++ ":\"" ++ text ++ "\"")) :=
    (onlyFails_renderLiteral value).bind fun _ => .ok _
  cases operand with
  | column other => exact onlyFails_withOperand nested _ _
  | list values => exact onlyFails_refuse nested _
  | literal value =>
    cases value with
    | pattern p => exact .ok _
    | phrase _ => exact onlyFails_withOperand nested _ _
    | string _ | integer _ | float _ | boolean _ | null | raw _ | table _ | dateTime _ =>
      exact hquoted _

theorem onlyFails_isIn (operand : Operand) :
    OnlyFails Error.OfParameter ((Script.isIn column operand).run nested).outcome := by
  cases operand with
  | literal _ | column _ => exact onlyFails_refuse nested _
  | list values =>
    rw [Script.isIn]
    split_ifs
    · exact onlyFails_withOperand nested _ _
    · exact onlyFails_refuse nested _

/-- Every operator has a form in the search engine's syntax, and its forms only look at values. -/
theorem onlyFails_renderComparison (c : Comparison) :
    OnlyFails Error.OfParameter (renderComparison .standard nested c).outcome := by
  obtain ⟨column, operator, operand⟩ := c
  cases operator with
  | eq | ne | gt | gte | lt | lte | «matches» | isNot =>
    exact (onlyFails_renderOperand operand).logged_bind fun _ => .ok _
  | like => exact onlyFails_like nested column operand
  | between => exact onlyFails_between nested column operand
  | isIn => exact onlyFails_isIn nested column operand

/-- Comparisons are rendered or have a parameter at fault, and so are groups of them. -/
theorem onlyFails_renderClause (clause : Clause)
    (h : ∀ node ∈ clause.nodes, node.IsCondition ∧ ¬node.IsEmpty) :
    OnlyFails Error.OfParameter (renderClause .standard nested clause).outcome := by
  induction clause with
  | comparison c => exact onlyFails_renderComparison nested c
  | group combinator children ih =>
    rw [Clause.nodes_group, List.forall_mem_cons, List.forall_mem_flatMap] at h
    obtain ⟨⟨-, hempty⟩, hchildren⟩ := h
    have hne : children ≠ [] := by
      rintro rfl
      exact hempty ⟨combinator, rfl⟩
    rw [renderClause_group nested _ _ hne]
    exact (Logged.onlyFails_each fun c hc => ih c hc (hchildren c hc)).logged_bind fun _ => .ok _
  | literal _ | column _ | compiled _ => exact absurd (h _ (Clause.self_mem_nodes _)).1 id

end Comparisons

/-! ## Compiled clauses -/

namespace Compiler

variable {columnSql : Column → String} {nesting : Nat} {clauses : List Clause}
  {order : Option Order} {limit offset : UInt64}

/-- Clauses that compare something are compiled, or a parameter or a second table is at fault. -/
theorem onlyFails_compile (hne : clauses ≠ [])
    (hnodes : ∀ clause ∈ clauses, ∀ node ∈ clause.nodes, node.IsCondition ∧ ¬node.IsEmpty)
    (hcomparisons : ∀ clause ∈ clauses, clause.comparisons ≠ []) :
    OnlyFails (fun e => e.OfParameter ∨ ∃ tables, e = .ambiguousTable tables)
      (Compiler.compile ⟨.standard, columnSql, nesting⟩ clauses order limit offset) := by
  have hdeclare : ∀ name, clauses.head? ≠ some (.declare name) := by
    intro name h
    have hclause := hnodes _ (List.mem_of_mem_head? h) _ (Clause.self_mem_nodes _)
    exact hclause.1
  intro e he
  rcases compile_eq_error.mp he with hdraft | ⟨d, hd, htemplate | ⟨-, htable⟩⟩
  · -- the draft fails if a clause does
    obtain ⟨nested, hnested⟩ := render_eq_renderClause ⟨.standard, columnSql, nesting⟩
    have hrender : OnlyFails Error.OfParameter
        (renderQuery ⟨.standard, columnSql, nesting⟩ clauses order limit offset).outcome := by
      rw [renderQuery, renderAll_of_not_declare hdeclare, hnested]
      refine (Logged.onlyFails_each fun clause hclause =>
        onlyFails_renderClause nested clause (hnodes clause hclause)).logged_bind fun texts => ?_
      cases order with
      | none => exact .ok _
      | some order => cases order <;> exact .ok _
    exact .inl (hrender e (draft_eq_error.mp hdraft))
  · unfold Draft.template at htemplate
    split_ifs at htemplate
    cases htemplate
    exact .inl ⟨_, rfl⟩
  · rcases Draft.ofTables_of_table htable with rfl | htables
    · -- the first comparison has its table in the draft
      obtain ⟨clause, hclause⟩ := List.exists_mem_of_ne_nil clauses hne
      obtain ⟨c, hc⟩ := List.exists_mem_of_ne_nil _ (hcomparisons clause hclause)
      have hmem : c.column.table ∈ d.tables := by
        rw [tables_of_draft hd, Clause.comparisonsAll_eq]
        exact List.mem_append_left _ (List.mem_append_right _
          (List.mem_map_of_mem (List.mem_flatMap.mpr ⟨clause, hclause, hc⟩)))
      rw [Draft.table_eq_noFilterTable.mp htable] at hmem
      cases hmem
    · exact .inr htables

end Compiler

/-! ## The relational engine -/

/-- A parameter is at fault, or an operator that the relational engine does not have. -/
def Error.OfTest (e : Error) : Prop :=
  e.OfParameter ∨ ∃ operator, e = .unsupportedOperator operator

theorem Literal.onlyFails_value (value : Literal) : OnlyFails Error.OfParameter value.value := by
  cases value with
  | dateTime t => exact (DateTime.onlyFails_text t).map Value.string
  | null | pattern _ | raw _ | table _ => exact .error ⟨_, rfl⟩
  | string _ | integer _ | float _ | boolean _ | phrase _ => exact .ok _

namespace Comparison

variable (c : Comparison)

theorem onlyFails_against (comparator : Comparator) :
    OnlyFails Error.OfParameter (c.against comparator) := by
  refine OnlyFails.map _ ?_
  unfold Operand.term
  split
  · exact (Literal.onlyFails_value _).map _
  · exact .ok _
  · exact .error ⟨_, rfl⟩

theorem onlyFails_likeTest : OnlyFails Error.OfParameter c.likeTest := by
  unfold likeTest
  split
  · exact .ok _
  · exact .error ⟨_, rfl⟩

theorem onlyFails_betweenTest : OnlyFails Error.OfParameter c.betweenTest := by
  unfold betweenTest
  split
  · exact (Literal.onlyFails_value _).bind fun _ => (Literal.onlyFails_value _).bind fun _ => .ok _
  · exact .error ⟨_, rfl⟩
  · exact .error ⟨_, rfl⟩

theorem onlyFails_inTest : OnlyFails Error.OfParameter c.inTest := by
  unfold inTest
  split
  · exact (onlyFails_mapM fun value _ => Literal.onlyFails_value value).map _
  · exact .error ⟨_, rfl⟩

variable {c} in
/-- Full-text match apart, every operator has a test, and only an operand can be in its way. -/
theorem onlyFails_test_of_ne (h : c.operator ≠ .matches) : OnlyFails Error.OfParameter c.test := by
  have hnull (test : Test) (comparator : Comparator) :
      OnlyFails Error.OfParameter
        (if c.operand.isNull then .ok test else c.against comparator) := by
    split_ifs
    · exact .ok test
    · exact c.onlyFails_against comparator
  unfold test
  cases hoperator : c.operator with
  | eq | ne | isNot => exact hnull _ _
  | gt | gte | lt | lte => exact c.onlyFails_against _
  | like => exact c.onlyFails_likeTest
  | between => exact c.onlyFails_betweenTest
  | isIn => exact c.onlyFails_inTest
  | «matches» => exact absurd hoperator h

theorem onlyFails_test : OnlyFails Error.OfTest c.test := by
  by_cases h : c.operator = .matches
  · rw [test, h]
    exact .error (.inr ⟨_, rfl⟩)
  · exact (onlyFails_test_of_ne h).mono fun _ => .inl

end Comparison

namespace Clause

theorem onlyFails_conditions_of_forall {clauses : List Clause}
    (h : ∀ c ∈ clauses, OnlyFails Error.OfTest (condition c)) :
    OnlyFails Error.OfTest (conditions clauses) := by
  induction clauses with
  | nil => exact .ok []
  | cons first rest ih =>
    obtain ⟨hfirst, hrest⟩ := List.forall_mem_cons.mp h
    exact hfirst.bind fun _ => (ih hrest).bind fun _ => .ok _

/-- A comparison has a test or a parameter or operator at fault, and so have groups of them. -/
theorem onlyFails_condition (clause : Clause) (h : ∀ node ∈ clause.nodes, node.IsCondition) :
    OnlyFails Error.OfTest (condition clause) := by
  induction clause with
  | comparison c => exact c.onlyFails_test.map _
  | group combinator children ih =>
    rw [nodes_group, List.forall_mem_cons, List.forall_mem_flatMap] at h
    exact (onlyFails_conditions_of_forall fun c hc => ih c hc (h.2 c hc)).map _
  | literal _ | column _ | compiled _ => exact absurd (h _ (self_mem_nodes _)) id

end Clause

/-- An order has a sort key, unless it is by a score and no table is searched. -/
theorem Order.onlyFails_sortKey {kind : Error → Prop} {table : Option String} {order : Order}
    (h : ∀ direction, order = .score direction → table.isSome) :
    OnlyFails kind (order.sortKey table) := by
  cases order with
  | column c direction => exact .ok _
  | score direction =>
    obtain ⟨name, rfl⟩ := Option.isSome_iff_exists.mp (h direction rfl)
    exact .ok _

/-- A plan of conditions, with a search if there is an order by score, can be applied, or a
parameter or an operator is at fault. -/
theorem Select.onlyFails_apply (s : Select) {plan : Plan}
    (hfilters : ∀ node ∈ Clause.nodesAll plan.filters, node.IsCondition)
    (hscore : ∀ direction, .score direction ∈ plan.orders → plan.search.isSome) :
    OnlyFails Error.OfTest (s.apply plan) := by
  rw [Clause.nodesAll_eq, List.forall_mem_flatMap] at hfilters
  have hconditions : OnlyFails Error.OfTest (Clause.conditions plan.filters) :=
    Clause.onlyFails_conditions_of_forall fun c hc => Clause.onlyFails_condition c (hfilters c hc)
  refine hconditions.bind fun _ => OnlyFails.bind ?_ fun _ => .ok _
  refine onlyFails_mapM fun order horder => Order.onlyFails_sortKey ?_
  rintro direction rfl
  rw [Option.isSome_map]
  exact hscore direction horder

/-! ## The stages together -/

namespace Query

variable {q : Query} {compiler : Compiler}

/-- Everything left to the relational engine is a condition. -/
theorem isCondition_of_plan {plan : Plan} (h : (q.plan compiler).outcome = .ok plan) :
    ∀ node ∈ Clause.nodesAll plan.filters, node.IsCondition := by
  obtain ⟨hsplittable, search, -, -, rfl⟩ := plan_eq_ok_iff.mp h
  have hnodes := (Clause.forall_nodesAll_iff (p := Clause.IsCondition) (fun _ => trivial) _).mp
    hsplittable.conditions
  rw [Clause.nodesAll_eq, List.forall_mem_flatMap]
  exact fun c hc => hnodes c (List.mem_filter.mp hc).1

/-- An order by score is left only next to a search. -/
theorem isSome_search_of_plan {plan : Plan} (h : (q.plan compiler).outcome = .ok plan)
    (direction : Direction) (hmem : .score direction ∈ plan.orders) : plan.search.isSome := by
  obtain ⟨-, search, -, hscore, rfl⟩ := plan_eq_ok_iff.mp h
  cases search with
  | some p => rfl
  | none =>
    refine absurd ?_ (hscore rfl direction)
    -- without a search nothing is fused, so the orders are those of the query
    change _ ∈ q.relationalOrders ++ q.demoted false at hmem
    rw [demoted_false] at hmem
    rcases List.mem_append.mp hmem with hmem | hmem
    · exact (List.mem_filter.mp hmem).1
    · exact score_mem_searchOrders.mp hmem

/-- What is split off for the search engine is compiled, or a parameter or a second table is at
fault. -/
theorem onlyFails_compileSearch (hsplittable : q.Splittable) (hne : q.conjunctsOf .search ≠ [])
    (columnSql : Column → String) (nesting : Nat) :
    OnlyFails (fun e => e.OfParameter ∨ ∃ tables, e = .ambiguousTable tables)
      (q.compileSearch ⟨.standard, columnSql, nesting⟩) := by
  obtain ⟨hflatten, hsplit⟩ := splittable_iff.mp hsplittable
  have hengines := Clause.isOk_split_iff.mp ⟨_, hsplit⟩
  refine Compiler.onlyFails_compile hne (fun clause hclause => ?_) fun clause hclause => ?_
  · obtain ⟨e, he⟩ := hengines clause (List.mem_filter.mp hclause).1
    exact ((Clause.engine_eq_ok_iff clause e).mp he).1
  · obtain ⟨e, he⟩ := hengines clause (List.mem_filter.mp hclause).1
    exact (Clause.evaluates_of_engine clause e he).1

/-- The stages fit together. In the search engine's syntax a query is planned or fails since a
clause cannot be split, a parameter is invalid or a second table is searched. A plan, from
whatever compiler, leaves conditions to the relational engine, and a score only next to a search,
so that it can be applied to any statement or fails for a parameter or an operator. -/
theorem plan_failures (q : Query) :
    (∀ (columnSql : Column → String) (nesting : Nat) (e : Error),
      (q.plan ⟨.standard, columnSql, nesting⟩).outcome = .error e →
        (∃ fault, e = .unsupportedClause fault) ∨ (∃ fault, e = .invalidParameter fault) ∨
          ∃ tables, e = .ambiguousTable tables) ∧
      ∀ (compiler : Compiler) (plan : Plan), (q.plan compiler).outcome = .ok plan →
        (∀ node ∈ Clause.nodesAll plan.filters, node.IsCondition) ∧
          (∀ direction, .score direction ∈ plan.orders → plan.search.isSome) ∧
          ∀ (s : Select) (e : Error), s.apply plan = .error e →
            (∃ fault, e = .invalidParameter fault) ∨
              ∃ operator, e = .unsupportedOperator operator := by
  constructor
  · intro columnSql nesting e he
    rcases plan_eq_error he with ⟨-, hrefusal⟩ | ⟨hsplittable, hne, hcompile⟩
    · exact .inl hrefusal
    · exact .inr (onlyFails_compileSearch hsplittable hne columnSql nesting e hcompile)
  · intro compiler plan hplan
    have hfilters := isCondition_of_plan hplan
    have hscore := isSome_search_of_plan hplan
    exact ⟨hfilters, hscore, fun s => s.onlyFails_apply hfilters hscore⟩

/-- Two tables in one search, and a full-text match that is left to the relational engine next to
an order by score. -/
theorem plan_failures_examples :
    (∃ (q : Query) (e : Error),
      q.filters = [.any [Column.lt ⟨"products", "price", .search⟩ (.literal (.integer 5)),
        Column.gt ⟨"offers", "price", .search⟩ (.literal (.integer 9))]] ∧
      (q.plan {}).outcome = .error e ∧
      ((∃ fault, e = .unsupportedClause fault) ∨ (∃ fault, e = .invalidParameter fault) ∨
        ∃ tables, e = .ambiguousTable tables)) ∧
    ∃ (q : Query) (plan : Plan) (e : Error),
      q.orders = [.score .descending] ∧ (q.plan {}).outcome = .ok plan ∧ plan.search.isSome ∧
      Select.apply ⟨.everything, "products", [], [], none, none⟩ plan = .error e ∧
      ((∃ fault, e = .invalidParameter fault) ∨ ∃ operator, e = .unsupportedOperator operator) := by
  constructor
  · have hplan : (Query.plan { filters := [.any [
        Column.lt ⟨"products", "price", .search⟩ (.literal (.integer 5)),
        Column.gt ⟨"offers", "price", .search⟩ (.literal (.integer 9))]] } {}).outcome =
          .error (.ambiguousTable ["offers", "products"]) := rfl
    exact ⟨_, _, rfl, hplan, (plan_failures _).1 _ _ _ hplan⟩
  · have hplan : (Query.plan
        { filters := [Column.lt ⟨"products", "price", .search⟩ (.literal (.integer 5)),
            Column.isMatch ⟨"products", "name", .relational⟩ (.literal (.string "beer"))]
          orders := [.score .descending] } {}).outcome =
        .ok
          { search := some ⟨"products", "price < 5", []⟩
            filters :=
              [Column.isMatch ⟨"products", "name", .relational⟩ (.literal (.string "beer"))]
            orders := [.score .descending], limit := none, offset := none } := rfl
    obtain ⟨-, hscore, happly⟩ := (plan_failures _).2 {} _ hplan
    exact ⟨_, _, .unsupportedOperator .matches, rfl, hplan, hscore .descending (by decide), rfl,
      happly ⟨.everything, "products", [], [], none, none⟩ _ rfl⟩

end Query

end HybridQuery
