import HybridQuery.Proofs.Notes
import HybridQuery.Proofs.Planning

/-!
# Which table a plan is about

A plan looks for its table in the search, and without a search in the filters, where it takes the
first column that is compared. Both are parts of what the query filters by: a search that compiles
is about a single table, so this is the table of each comparison in it, and the filters of a plan
without a search are all the conjuncts of the query, so the leftmost comparison is the same.

`Query.plan_table` says it in terms of the filters as they were given. No table is found only if
there is nothing to look at.
-/

namespace HybridQuery

namespace Clause

/-! ## The first table -/

theorem firstTableOf?_of_forall {clauses : List Clause}
    (h : ∀ c ∈ clauses, firstTable? c = c.comparisons.head?.map fun d => d.column.table) :
    firstTableOf? clauses = (comparisonsAll clauses).head?.map fun d => d.column.table := by
  induction clauses with
  | nil => rfl
  | cons first rest ih =>
    obtain ⟨hfirst, hrest⟩ := List.forall_mem_cons.mp h
    rw [firstTableOf?, hfirst, ih hrest, comparisonsAll]
    cases first.comparisons <;> rfl

/-- The first table is that of the leftmost comparison. -/
theorem firstTable?_eq (clause : Clause) :
    clause.firstTable? = clause.comparisons.head?.map fun d => d.column.table := by
  induction clause with
  | comparison c => rfl
  | group combinator children ih => exact firstTableOf?_of_forall ih
  | literal _ | column _ | compiled _ => rfl

theorem firstTableOf?_eq (clauses : List Clause) :
    firstTableOf? clauses = (comparisonsAll clauses).head?.map fun d => d.column.table :=
  firstTableOf?_of_forall fun c _ => firstTable?_eq c

end Clause

namespace Query

variable {q : Query}

/-! ## Queries that compare nothing -/

/-- Without comparisons there are only conjunctions of conjunctions. -/
theorem comparisons_eq_nil_iff (h : q.Splittable) : q.comparisons = [] ↔
    ∀ node ∈ Clause.nodesAll q.filters, ∃ children, node = .group .and children := by
  constructor
  · intro hnil
    refine (Clause.forall_nodesAll_iff (fun children => ⟨children, rfl⟩) q.filters).mpr ?_
    -- every conjunct would compare something
    intro clause hclause
    obtain ⟨e, hcompares, -⟩ := h.evaluates clause hclause
    obtain ⟨c, hc⟩ := List.exists_mem_of_ne_nil _ hcompares
    rw [comparisons, Clause.comparisonsAll_eq] at hnil
    exact absurd (List.mem_flatMap.mpr ⟨clause, hclause, hc⟩) (hnil ▸ List.not_mem_nil)
  · intro hgroups
    rw [comparisons_eq, List.eq_nil_iff_forall_not_mem]
    intro c hc
    obtain ⟨children, heq⟩ := hgroups _ (Clause.mem_comparisonsAll_iff.mp hc)
    cases heq

/-- Without a search all conjuncts are filters of the relational engine. -/
theorem conjunctsOf_relational_eq (h : q.Splittable) (hnil : q.conjunctsOf .search = []) :
    q.conjunctsOf .relational = q.conjuncts := by
  refine List.filter_eq_self.mpr fun clause hclause => ?_
  obtain ⟨e, hevaluates⟩ := h.evaluates clause hclause
  cases e with
  | relational => rw [hevaluates.isOf_eq, decide_eq_true rfl]
  | search =>
    have hof : clause.isOf .search = true := by rw [hevaluates.isOf_eq, decide_eq_true rfl]
    exact absurd hof (List.filter_eq_nil_iff.mp hnil clause hclause)

/-! ## Searches -/

/-- A search is about the table of each of its comparisons, and of the column it is ordered by. -/
theorem table_of_compile {columnSql : Column → String} {nesting : Nat} {clauses : List Clause}
    {order : Option Order} {limit offset : UInt64} {p : Predicate}
    (h : Compiler.compile ⟨.standard, columnSql, nesting⟩ clauses order limit offset = .ok p) :
    (∀ c ∈ Clause.comparisonsAll clauses, c.column.table = p.table) ∧
      ∀ c direction, order = some (.column c direction) → c.table = p.table := by
  obtain ⟨d, hd, -, htable, -⟩ := Compiler.compile_eq_ok.mp h
  obtain ⟨-, hall⟩ := Draft.table_eq_ok.mp htable
  rw [Compiler.tables_of_draft hd] at hall
  obtain ⟨hclauses, horder⟩ := List.forall_mem_append.mp hall
  obtain ⟨-, hcompared⟩ := List.forall_mem_append.mp hclauses
  refine ⟨fun c hc => hcompared _ (List.mem_map.mpr ⟨c, hc, rfl⟩), ?_⟩
  rintro c direction rfl
  exact horder c.table (by simp [Order.tables])

end Query

/-- The table of a plan, told by the filters of its query as they were given. -/
structure Plan.IsAbout (plan : Plan) (q : Query) : Prop where
  /-- There is no table if nothing is compared. -/
  eq_none : plan.table? = none ↔ Clause.comparisonsAll q.filters = []
  /-- Then all that can be there are conjunctions, down to empty ones. -/
  nothing : Clause.comparisonsAll q.filters = [] ↔
    ∀ node ∈ Clause.nodesAll q.filters, ∃ children, node = .group .and children
  /-- All that is searched is of one table, and this is the one. -/
  searched : (∃ c ∈ Clause.comparisonsAll q.filters, c.column.engine = .search) →
    ∃ table, plan.table? = some table ∧
      (∀ c ∈ Clause.comparisonsAll q.filters, c.column.engine = .search → c.column.table = table) ∧
      ∀ c direction, q.limit.isSome →
        q.orders.find? Order.isSearch = some (.column c direction) → c.table = table
  /-- Without a search it is the table of the leftmost comparison. -/
  compared : (∀ c ∈ Clause.comparisonsAll q.filters, c.column.engine ≠ .search) →
    plan.table? = (Clause.comparisonsAll q.filters).head?.map fun c => c.column.table

/-- A plan has a table whenever something is compared, and it is the one that is searched, or else
that of the leftmost comparison. -/
theorem Query.plan_table (columnSql : Column → String) (nesting : Nat) (q : Query) (plan : Plan)
    (h : (q.plan ⟨.standard, columnSql, nesting⟩).outcome = .ok plan) : plan.IsAbout q := by
  obtain ⟨hsplittable, search, hsearch, -, rfl⟩ := plan_eq_ok_iff.mp h
  have hnothing := comparisons_eq_nil_iff hsplittable
  have hsearched := conjunctsOf_ne_nil_iff hsplittable .search
  rw [comparisons_eq] at hnothing hsearched
  rcases search_conjunctsOf_eq_ok_iff.mp hsearch with ⟨hnil, rfl⟩ | ⟨hne, p, hcompile, rfl⟩
  · -- without a search the filters of the plan are all the conjuncts
    have htable : Clause.firstTableOf? (q.conjunctsOf .relational) =
        (Clause.comparisonsAll q.filters).head?.map fun c => c.column.table := by
      rw [conjunctsOf_relational_eq hsplittable hnil, Clause.firstTableOf?_eq, ← comparisons_eq]
      rfl
    refine ⟨?_, hnothing, fun hsome => absurd hnil (hsearched.mpr hsome), fun _ => htable⟩
    rw [Plan.table?, htable, Option.map_eq_none_iff, List.head?_eq_none_iff]
  · obtain ⟨hcompared, hordered⟩ := table_of_compile hcompile
    have hsome := hsearched.mp hne
    refine ⟨?_, hnothing, fun _ => ⟨p.table, rfl, ?_, ?_⟩, ?_⟩
    · obtain ⟨c, hc, -⟩ := hsome
      constructor
      · intro hnone
        cases hnone
      · intro hnil
        rw [hnil] at hc
        cases hc
    · intro c hc hengine
      rw [← comparisons_eq] at hc
      exact hcompared c ((mem_comparisons_conjunctsOf hsplittable).mpr ⟨hc, hengine⟩)
    · intro c direction hlimit hfind
      exact hordered c direction (by rw [if_pos hlimit, hfind])
    · intro hnone
      obtain ⟨c, hc, hengine⟩ := hsome
      exact absurd hengine (hnone c hc)

/-- A plan without a search whose leftmost comparison is below conjunctions, and one with a search
that a column of the same table orders, beside a filter of another table. -/
theorem Query.plan_table_nested :
    ∃ (q r : Query) (plan planned : Plan),
      q.filters = [.all [], .all [.all [], .any [
          Column.gt ⟨"offers", "price", .relational⟩ (.literal (.integer 5)),
          Column.eq ⟨"products", "stock", .relational⟩ (.literal .null)]]] ∧
      r.filters = [Column.gt ⟨"offers", "price", .relational⟩ (.literal (.integer 5)),
        .all [Column.isMatch ⟨"products", "name", .search⟩ (.literal (.string "tea"))]] ∧
      r.orders = [.column ⟨"products", "price", .search⟩ .ascending] ∧ r.limit = some 10 ∧
      (q.plan {}).outcome = .ok plan ∧ plan.IsAbout q ∧ plan.table? = some "offers" ∧
      (r.plan {}).outcome = .ok planned ∧ planned.IsAbout r ∧ planned.table? = some "products" := by
  refine ⟨{ filters := _ }, { filters := _, orders := _, limit := _ }, _, _, rfl, rfl, rfl, rfl,
    rfl, ?_, rfl, rfl, ?_, rfl⟩
  · exact Query.plan_table Column.qualified 100 _ _ rfl
  · exact Query.plan_table Column.qualified 100 _ _ rfl

end HybridQuery
