import HybridQuery.Proofs.Logged
import HybridQuery.Proofs.Truth
import HybridQuery.Query.Plan

/-!
# Nothing is lost in splitting a query

Each step of planning has its own account here. `Clause.flattenAll` gives the conjuncts of the
filters (`Clause.eq_conjuncts_of_flatten`). A group has an engine if it is not empty and all of
its children have that engine (`Clause.engine_group`), so a clause with an engine compares
something, and only columns of that engine (`Clause.Evaluates`). `Clause.split` keeps the
clauses of each engine in their order (`Clause.split_eq_filter`).

A plan therefore has the relational conjuncts for its filters and the search for the others, and
both together mean what the filters of the query mean (`Query.plan_splits`).
-/

namespace HybridQuery

namespace Clause

/-! ## Conjuncts -/

theorem eq_conjunctsAll_of_forall {clauses : List Clause}
    (h : ∀ c ∈ clauses, ∀ cs, flatten c = .ok cs → cs = conjuncts c) :
    ∀ cs, flattenAll clauses = .ok cs → cs = conjunctsAll clauses := by
  induction clauses with
  | nil =>
    intro cs hcs
    exact (Except.ok.inj hcs).symm
  | cons first rest ih =>
    intro cs hcs
    rw [flattenAll] at hcs
    obtain ⟨lead, hlead, hcs⟩ := bind_eq_ok.mp hcs
    obtain ⟨others, hothers, hcs⟩ := bind_eq_ok.mp hcs
    rw [← Except.ok.inj hcs, conjunctsAll_cons, h first List.mem_cons_self lead hlead,
      ih (fun c hc => h c (List.mem_cons_of_mem _ hc)) others hothers]

/-- What a clause is flattened to are its conjuncts. -/
theorem eq_conjuncts_of_flatten (clause : Clause) :
    ∀ cs, flatten clause = .ok cs → cs = conjuncts clause := by
  induction clause with
  | comparison c =>
    intro cs h
    exact (Except.ok.inj h).symm
  | group combinator children ih =>
    cases combinator with
    | or =>
      intro cs h
      exact (Except.ok.inj h).symm
    | and => exact eq_conjunctsAll_of_forall ih
  | literal _ | column _ | compiled _ =>
    intro cs h
    cases h

theorem eq_conjuncts_of_flattenAll {clauses cs : List Clause}
    (h : flattenAll clauses = .ok cs) : cs = conjunctsAll clauses :=
  eq_conjunctsAll_of_forall (fun c _ => eq_conjuncts_of_flatten c) cs h

/-! ## The engine of a clause -/

/-- An engine evaluates the clause: it compares something, and only columns of this engine. -/
def Evaluates (e : Engine) (clause : Clause) : Prop :=
  clause.comparisons ≠ [] ∧ ∀ c ∈ clause.comparisons, c.column.engine = e

/-- All comparisons of the clause are on columns of this engine. -/
def isOf (e : Engine) (clause : Clause) : Bool :=
  clause.comparisons.all fun c => c.column.engine = e

theorem Evaluates.isOf_eq {e : Engine} {clause : Clause} (h : clause.Evaluates e) (other : Engine) :
    clause.isOf other = decide (e = other) := by
  obtain ⟨hne, hall⟩ := h
  obtain ⟨c, hc⟩ := List.exists_mem_of_ne_nil _ hne
  unfold isOf
  rw [Bool.eq_iff_iff, List.all_eq_true, decide_eq_true_iff]
  constructor
  · intro h
    rw [← hall c hc]
    exact of_decide_eq_true (h c hc)
  · rintro rfl d hd
    exact decide_eq_true (hall d hd)

theorem agree_eq_ok {chosen : Engine} : ∀ {clauses : List Clause},
    (agree chosen clauses).outcome = .ok () ↔ ∀ c ∈ clauses, (engine c).outcome = .ok chosen
  | [] => by simp [agree]
  | clause :: rest => by
    rw [agree, Logged.bind_eq_ok, List.forall_mem_cons]
    constructor
    · rintro ⟨other, hother, h⟩
      by_cases heq : other = chosen
      · rw [if_pos heq] at h
        exact ⟨heq ▸ hother, agree_eq_ok.mp h⟩
      · rw [if_neg heq] at h
        cases h
    · rintro ⟨hclause, hrest⟩
      refine ⟨chosen, hclause, ?_⟩
      rw [if_pos rfl]
      exact agree_eq_ok.mpr hrest

/-- An engine evaluates a group if there are children and it evaluates all of them. -/
theorem engine_group {combinator : Combinator} {children : List Clause} {e : Engine} :
    (engine (.group combinator children)).outcome = .ok e ↔
      children ≠ [] ∧ ∀ c ∈ children, (engine c).outcome = .ok e := by
  cases children with
  | nil =>
    constructor
    · intro h
      cases h
    · rintro ⟨hne, -⟩
      exact absurd rfl hne
  | cons first rest =>
    rw [engine, Logged.bind_eq_ok, List.forall_mem_cons]
    constructor
    · rintro ⟨chosen, hfirst, h⟩
      obtain ⟨⟨⟩, hagree, h⟩ := Logged.bind_eq_ok.mp h
      obtain rfl : chosen = e := Except.ok.inj h
      exact ⟨List.cons_ne_nil _ _, hfirst, agree_eq_ok.mp hagree⟩
    · rintro ⟨-, hfirst, hrest⟩
      exact ⟨e, hfirst, Logged.bind_eq_ok.mpr ⟨(), agree_eq_ok.mpr hrest, rfl⟩⟩

theorem evaluates_of_engine (clause : Clause) :
    ∀ e, (engine clause).outcome = .ok e → clause.Evaluates e := by
  induction clause with
  | comparison c =>
    intro e h
    obtain rfl : c.column.engine = e := Except.ok.inj h
    simp [Evaluates]
  | group combinator children ih =>
    intro e h
    obtain ⟨hne, hall⟩ := engine_group.mp h
    obtain ⟨first, hfirst⟩ := List.exists_mem_of_ne_nil children hne
    obtain ⟨hfirstne, -⟩ := ih first hfirst e (hall first hfirst)
    obtain ⟨c, hc⟩ := List.exists_mem_of_ne_nil _ hfirstne
    refine ⟨?_, fun d hd => ?_⟩
    · rw [comparisons_group]
      exact List.ne_nil_of_mem (List.mem_flatMap.mpr ⟨first, hfirst, hc⟩)
    · rw [comparisons_group] at hd
      obtain ⟨child, hchild, hd⟩ := List.mem_flatMap.mp hd
      exact (ih child hchild e (hall child hchild)).2 d hd
  | literal _ | column _ | compiled _ =>
    intro e h
    cases h

/-! ## The two parts -/

/-- The clauses of each engine, in their order. -/
theorem split_eq_filter : ∀ {clauses search relational : List Clause},
    (split clauses).outcome = .ok (search, relational) →
      (∀ c ∈ clauses, ∃ e, c.Evaluates e) ∧ search = clauses.filter (isOf .search) ∧
        relational = clauses.filter (isOf .relational)
  | [], search, relational, h => by
    cases h
    simp
  | clause :: rest, search, relational, h => by
    rw [split] at h
    obtain ⟨chosen, hchosen, h⟩ := Logged.bind_eq_ok.mp h
    obtain ⟨⟨others, others'⟩, hrest, h⟩ := Logged.bind_eq_ok.mp h
    obtain ⟨hall, hsearch, hrelational⟩ := split_eq_filter hrest
    have heval := evaluates_of_engine clause chosen hchosen
    have hall' : ∀ c ∈ clause :: rest, ∃ e, c.Evaluates e :=
      List.forall_mem_cons.mpr ⟨⟨chosen, heval⟩, hall⟩
    rw [List.filter_cons, List.filter_cons, heval.isOf_eq, heval.isOf_eq, ← hsearch, ← hrelational]
    cases chosen with
    | search =>
      cases h
      exact ⟨hall', rfl, rfl⟩
    | relational =>
      cases h
      exact ⟨hall', rfl, rfl⟩

/-- Every clause is in exactly one of the two parts. -/
theorem filter_isOf_perm {clauses : List Clause} (h : ∀ c ∈ clauses, ∃ e, c.Evaluates e) :
    (clauses.filter (isOf .search) ++ clauses.filter (isOf .relational)).Perm clauses := by
  -- a clause that has an engine is of the one exactly if it is not of the other
  have hnot : clauses.filter (isOf .relational) = clauses.filter fun c => !isOf .search c := by
    refine List.filter_congr fun c hc => ?_
    obtain ⟨e, he⟩ := h c hc
    rw [he.isOf_eq, he.isOf_eq]
    cases e <;> rfl
  rw [hnot]
  exact List.filter_append_perm _ clauses

end Clause

namespace Query

variable {q : Query} {compiler : Compiler}

/-! ## Plans -/

/-- There is a search if there are clauses for it. -/
theorem search_eq_ok {clauses : List Clause} {search : Option Predicate} :
    (q.search compiler clauses).outcome = .ok search ↔
      (clauses = [] ∧ search = none) ∨ (clauses ≠ [] ∧ ∃ p,
        compiler.compile clauses (q.fused true) (q.limit.getD 0) (q.offset.getD 0) = .ok p ∧
          search = some p) := by
  cases clauses with
  | nil => simp [Query.search, eq_comm]
  | cons first rest =>
    simp only [Query.search, Logged.bind_eq_ok, Logged.outcome_lift, Logged.outcome_note_bind,
      Logged.outcome_pure, Except.ok.injEq, List.cons_ne_nil, false_and, ne_eq, not_false_eq_true,
      true_and, false_or, eq_comm (a := search)]

/-- What a plan is made of. -/
theorem plan_eq_ok {plan : Plan} : (q.plan compiler).outcome = .ok plan ↔
    ∃ clauses searched filters search, Clause.flattenAll q.filters = .ok clauses ∧
      (Clause.split clauses).outcome = .ok (searched, filters) ∧
      (q.search compiler searched).outcome = .ok search ∧
      (demote search.isSome (q.demoted search.isSome)).outcome = .ok () ∧
      plan = { search, filters
               orders := q.relationalOrders ++ q.demoted search.isSome
               limit := if (q.fused search.isSome).isSome then none else q.limit
               offset := if (q.fused search.isSome).isSome then none else q.offset } := by
  rw [Query.plan]
  constructor
  · intro h
    obtain ⟨clauses, hclauses, h⟩ := Logged.bind_eq_ok.mp h
    obtain ⟨⟨searched, filters⟩, hsplit, h⟩ := Logged.bind_eq_ok.mp h
    obtain ⟨search, hsearch, h⟩ := Logged.bind_eq_ok.mp h
    obtain ⟨⟨⟩, hdemote, h⟩ := Logged.bind_eq_ok.mp h
    exact ⟨clauses, searched, filters, search, hclauses, hsplit, hsearch, hdemote,
      (Except.ok.inj h).symm⟩
  · rintro ⟨clauses, searched, filters, search, hclauses, hsplit, hsearch, hdemote, rfl⟩
    exact Logged.bind_eq_ok.mpr ⟨clauses, hclauses, Logged.bind_eq_ok.mpr ⟨_, hsplit,
      Logged.bind_eq_ok.mpr ⟨search, hsearch, Logged.bind_eq_ok.mpr ⟨(), hdemote, rfl⟩⟩⟩⟩

/-- The clauses that the filters of a query are the conjunction of. -/
def conjuncts (q : Query) : List Clause :=
  Clause.conjunctsAll q.filters

/-- The conjuncts that one engine evaluates. -/
def conjunctsOf (q : Query) (e : Engine) : List Clause :=
  q.conjuncts.filter (Clause.isOf e)

/-- The order that goes into the search: with a limit, the first one of the search engine. -/
theorem fused_true :
    q.fused true = if q.limit.isSome then q.orders.find? Order.isSearch else none := by
  rw [fused, searchOrders, List.head?_filter, Bool.true_and]

end Query

/-- A plan that has every conjunct of a query in one of its two parts, as it was. -/
structure Plan.Splits (plan : Plan) (compiler : Compiler) (q : Query) : Prop where
  /-- Every conjunct compares something, and only columns of one engine. -/
  evaluates : ∀ clause ∈ q.conjuncts, ∃ e, clause.Evaluates e
  filters : plan.filters = q.conjunctsOf .relational
  search_eq_none : plan.search = none ↔ q.conjunctsOf .search = []
  search_eq_some : q.conjunctsOf .search ≠ [] → ∃ p,
    compiler.compile (q.conjunctsOf .search)
      (if q.limit.isSome then q.orders.find? Order.isSearch else none)
      (q.limit.getD 0) (q.offset.getD 0) = .ok p ∧ plan.search = some p
  /-- Nothing is lost and nothing is there twice. -/
  perm : (q.conjunctsOf .search ++ plan.filters).Perm q.conjuncts
  /-- Both parts together mean what the filters mean. -/
  meaning : ∀ test : Comparison → Truth, Clause.allTrue test q.filters =
    (Clause.allTrue test (q.conjunctsOf .search)).and (Clause.allTrue test plan.filters)

/-- A query that is planned is split: the filters of the plan are the relational conjuncts, its
search is compiled from the others, and their conjunction means what the filters mean. -/
theorem Query.plan_splits (q : Query) (compiler : Compiler) (plan : Plan)
    (h : (q.plan compiler).outcome = .ok plan) : plan.Splits compiler q := by
  obtain ⟨clauses, searched, filters, search, hclauses, hsplit, hsearch, -, rfl⟩ :=
    plan_eq_ok.mp h
  obtain rfl : clauses = q.conjuncts := Clause.eq_conjuncts_of_flattenAll hclauses
  obtain ⟨hall, hsearched, hfilters⟩ := Clause.split_eq_filter hsplit
  have hperm := Clause.filter_isOf_perm hall
  rw [← hsearched, ← hfilters] at hperm
  obtain rfl : searched = q.conjunctsOf .search := hsearched
  rw [search_eq_ok, fused_true] at hsearch
  refine ⟨hall, hfilters, ?_, ?_, hperm, fun test => ?_⟩
  · constructor
    · intro (hnone : search = none)
      rcases hsearch with ⟨hnil, -⟩ | ⟨-, p, -, hp⟩
      · exact hnil
      · rw [hnone] at hp
        cases hp
    · intro hnil
      rcases hsearch with ⟨-, hnone⟩ | ⟨hne, -⟩
      · exact hnone
      · exact absurd hnil hne
  · intro hne
    rcases hsearch with ⟨hnil, -⟩ | ⟨-, hp⟩
    · exact absurd hnil hne
    · exact hp
  · rw [← Clause.allTrue_append, Clause.allTrue_perm test hperm]
    exact (Clause.allTrue_conjunctsAll test q.filters).symm

/-- Conjunctions within conjunctions, an empty one, and one in a disjunction. -/
theorem Query.plan_splits_nested :
    ∃ (q : Query) (plan : Plan),
      q.filters =
        [.all [Column.gt ⟨"products", "stock", .relational⟩ (.literal (.integer 0)), .all []],
          .all [.all [.any [Column.lt ⟨"products", "price", .search⟩ (.literal (.integer 5)),
            .all [Column.gt ⟨"products", "price", .search⟩ (.literal (.integer 9))]]]]] ∧
      (q.plan {}).outcome = .ok plan ∧ plan.Splits {} q ∧
      plan.filters = [Column.gt ⟨"products", "stock", .relational⟩ (.literal (.integer 0))] := by
  have hplan : (Query.plan { filters :=
      [.all [Column.gt ⟨"products", "stock", .relational⟩ (.literal (.integer 0)), .all []],
        .all [.all [.any [Column.lt ⟨"products", "price", .search⟩ (.literal (.integer 5)),
          .all [Column.gt ⟨"products", "price", .search⟩ (.literal (.integer 9))]]]]] }
      {}).outcome = .ok
        { search := some ⟨"products", "(price < 5 or (price > 9))", []⟩
          filters := [Column.gt ⟨"products", "stock", .relational⟩ (.literal (.integer 0))]
          orders := [], limit := none, offset := none } := by
    rfl
  exact ⟨_, _, rfl, hplan, Query.plan_splits _ {} _ hplan, rfl⟩

end HybridQuery
