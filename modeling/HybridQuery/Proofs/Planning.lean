import HybridQuery.Proofs.Splitting

/-!
# Which queries have a plan

Planning a query can fail in three places. Its filters may not be splittable: something in them is
no condition, a disjunction has nothing to choose from somewhere inside, or it mixes the engines
(`Query.Splittable`). The search that is left may not compile. And without a search there is no
score to order by.

Each step of planning succeeds exactly on what is said here about its input, and fails only by
refusing a clause, but for the compiler (`Query.plan_outcome`).
-/

namespace HybridQuery

/-- The error says that a clause or an order cannot be used where it stands. -/
def Error.IsRefusal (e : Error) : Prop :=
  ∃ fault, e = .unsupportedClause fault

namespace Clause

/-! ## Conditions -/

/-- A node that has a truth value. -/
def IsCondition : Clause → Prop
  | .comparison _ => True
  | .group _ _ => True
  | _ => False

/-- A node that stands for a choice of nothing, or for nothing at all. -/
def IsEmpty (node : Clause) : Prop :=
  ∃ combinator, node = .group combinator []

/-- No group in the clause is empty, and all of its comparisons are on columns of one engine. -/
structure IsUniform (clause : Clause) : Prop where
  nonempty : ∀ node ∈ clause.nodes, ¬node.IsEmpty
  engine : ∃ e, ∀ c ∈ clause.comparisons, c.column.engine = e

/-- What holds of all conjunctions holds of all nodes if it does of those in the conjuncts. -/
theorem forall_nodes_iff {p : Clause → Prop} (hand : ∀ children, p (.group .and children))
    (clause : Clause) :
    (∀ node ∈ clause.nodes, p node) ↔ ∀ c ∈ clause.conjuncts, ∀ node ∈ c.nodes, p node := by
  induction clause with
  | group combinator children ih =>
    cases combinator with
    | or => simp [conjuncts]
    | and =>
      rw [nodes_group, List.forall_mem_cons, and_iff_right (hand children), List.forall_mem_flatMap,
        conjuncts_and]
      induction children with
      | nil => simp [conjunctsAll]
      | cons first rest ihrest =>
        rw [List.forall_mem_cons, conjunctsAll_cons, List.forall_mem_append,
          ih first List.mem_cons_self, ihrest fun c hc => ih c (List.mem_cons_of_mem _ hc)]
  | comparison _ | literal _ | column _ | compiled _ => simp [conjuncts, nodes]

theorem forall_nodesAll_iff {p : Clause → Prop} (hand : ∀ children, p (.group .and children)) :
    ∀ clauses : List Clause, (∀ node ∈ nodesAll clauses, p node) ↔
      ∀ c ∈ conjunctsAll clauses, ∀ node ∈ c.nodes, p node
  | [] => by simp [nodesAll, conjunctsAll]
  | clause :: rest => by
    rw [nodesAll, List.forall_mem_append, conjunctsAll_cons, List.forall_mem_append,
      forall_nodes_iff hand clause, forall_nodesAll_iff hand rest]

/-! ## Flattening -/

theorem isOk_flattenAll_of_forall {clauses : List Clause}
    (h : ∀ c ∈ clauses, (∃ cs, flatten c = .ok cs) ↔ ∀ d ∈ conjuncts c, d.IsCondition) :
    (∃ cs, flattenAll clauses = .ok cs) ↔ ∀ d ∈ conjunctsAll clauses, d.IsCondition := by
  induction clauses with
  | nil => simp [flattenAll, conjunctsAll]
  | cons first rest ih =>
    rw [conjunctsAll_cons, List.forall_mem_append, ← h first List.mem_cons_self,
      ← ih fun c hc => h c (List.mem_cons_of_mem _ hc), flattenAll]
    constructor
    · rintro ⟨cs, hcs⟩
      obtain ⟨lead, hlead, hcs⟩ := bind_eq_ok.mp hcs
      obtain ⟨others, hothers, -⟩ := bind_eq_ok.mp hcs
      exact ⟨⟨lead, hlead⟩, ⟨others, hothers⟩⟩
    · rintro ⟨⟨lead, hlead⟩, ⟨others, hothers⟩⟩
      exact ⟨_, bind_eq_ok.mpr ⟨lead, hlead, bind_eq_ok.mpr ⟨others, hothers, rfl⟩⟩⟩

/-- Clauses can be flattened if their conjuncts are conditions. -/
theorem isOk_flatten_iff (clause : Clause) :
    (∃ cs, flatten clause = .ok cs) ↔ ∀ d ∈ conjuncts clause, d.IsCondition := by
  induction clause with
  | comparison c => simp [flatten, conjuncts, IsCondition]
  | group combinator children ih =>
    cases combinator with
    | or => simp [flatten, conjuncts, IsCondition]
    | and => exact isOk_flattenAll_of_forall ih
  | literal _ | column _ | compiled _ =>
    simp [flatten, conjuncts, IsCondition, refuseClause]

theorem flattenAll_eq_ok_iff {clauses : List Clause} :
    flattenAll clauses = .ok (conjunctsAll clauses) ↔
      ∀ d ∈ conjunctsAll clauses, d.IsCondition := by
  rw [← isOk_flattenAll_of_forall fun c _ => isOk_flatten_iff c]
  constructor
  · exact fun h => ⟨_, h⟩
  · rintro ⟨cs, hcs⟩
    rw [← eq_conjuncts_of_flattenAll hcs, hcs]

/-! ## Engines -/

/-- An engine evaluates a clause if it has all of its columns and nothing in it stands in the
way. -/
theorem engine_eq_ok_iff (clause : Clause) : ∀ e, (engine clause).outcome = .ok e ↔
    (∀ node ∈ clause.nodes, node.IsCondition ∧ ¬node.IsEmpty) ∧
      ∀ c ∈ clause.comparisons, c.column.engine = e := by
  induction clause with
  | comparison c =>
    intro e
    simp [engine, nodes, IsCondition, IsEmpty]
  | group combinator children ih =>
    intro e
    -- a group is a condition, so all that is asked of it is to have children
    have hnode : (Clause.group combinator children).IsCondition ∧
        ¬(Clause.group combinator children).IsEmpty ↔ children ≠ [] := by
      simp [IsCondition, IsEmpty]
    rw [engine_group, nodes_group, List.forall_mem_cons, hnode, comparisons_group,
      List.forall_mem_flatMap, List.forall_mem_flatMap, and_assoc, ← forall₂_and]
    exact and_congr_right fun _ => forall₂_congr fun c hc => ih c hc e
  | literal _ | column _ | compiled _ =>
    intro e
    simp [engine, nodes, IsCondition, refuseClause]

theorem isOk_engine_iff {clause : Clause} : (∃ e, (engine clause).outcome = .ok e) ↔
    (∀ node ∈ clause.nodes, node.IsCondition) ∧ clause.IsUniform := by
  simp only [engine_eq_ok_iff, forall₂_and]
  constructor
  · rintro ⟨e, ⟨hconditions, hnonempty⟩, hengine⟩
    exact ⟨hconditions, hnonempty, e, hengine⟩
  · rintro ⟨hconditions, hnonempty, e, hengine⟩
    exact ⟨e, ⟨hconditions, hnonempty⟩, hengine⟩

/-- Clauses can be split if each of them has an engine. -/
theorem isOk_split_iff : ∀ {clauses : List Clause}, (∃ parts, (split clauses).outcome = .ok parts) ↔
    ∀ c ∈ clauses, ∃ e, (engine c).outcome = .ok e
  | [] => by simp [split]
  | clause :: rest => by
    rw [List.forall_mem_cons, ← isOk_split_iff, split]
    constructor
    · rintro ⟨parts, h⟩
      obtain ⟨chosen, hchosen, h⟩ := Logged.bind_eq_ok.mp h
      obtain ⟨others, hothers, -⟩ := Logged.bind_eq_ok.mp h
      exact ⟨⟨chosen, hchosen⟩, ⟨others, hothers⟩⟩
    · rintro ⟨⟨chosen, hchosen⟩, ⟨others, hothers⟩⟩
      cases chosen with
      | search =>
        exact ⟨_, Logged.bind_eq_ok.mpr ⟨_, hchosen, Logged.bind_eq_ok.mpr ⟨_, hothers, rfl⟩⟩⟩
      | relational =>
        exact ⟨_, Logged.bind_eq_ok.mpr ⟨_, hchosen, Logged.bind_eq_ok.mpr ⟨_, hothers, rfl⟩⟩⟩

/-! ## Refusals -/

theorem onlyFails_refuseClause {α : Type} (fault : ClauseFault) :
    OnlyFails Error.IsRefusal (refuseClause fault : Except Error α) :=
  .error ⟨fault, rfl⟩

theorem onlyFails_flattenAll_of_forall {clauses : List Clause}
    (h : ∀ c ∈ clauses, OnlyFails Error.IsRefusal (flatten c)) :
    OnlyFails Error.IsRefusal (flattenAll clauses) := by
  induction clauses with
  | nil => exact .ok []
  | cons first rest ih =>
    obtain ⟨hfirst, hrest⟩ := List.forall_mem_cons.mp h
    exact hfirst.bind fun _ => (ih hrest).bind fun _ => .ok _

theorem onlyFails_flatten (clause : Clause) : OnlyFails Error.IsRefusal (flatten clause) := by
  induction clause with
  | comparison c => exact .ok _
  | group combinator children ih =>
    cases combinator with
    | or => exact .ok _
    | and => exact onlyFails_flattenAll_of_forall ih
  | literal _ | column _ | compiled _ => exact onlyFails_refuseClause _

theorem onlyFails_flattenAll (clauses : List Clause) :
    OnlyFails Error.IsRefusal (flattenAll clauses) :=
  onlyFails_flattenAll_of_forall fun c _ => onlyFails_flatten c

theorem onlyFails_agree {chosen : Engine} {clauses : List Clause}
    (h : ∀ c ∈ clauses, OnlyFails Error.IsRefusal (engine c).outcome) :
    OnlyFails Error.IsRefusal (agree chosen clauses).outcome := by
  induction clauses with
  | nil => exact .ok ()
  | cons first rest ih =>
    obtain ⟨hfirst, hrest⟩ := List.forall_mem_cons.mp h
    refine hfirst.logged_bind fun other => ?_
    split_ifs
    · exact ih hrest
    · exact onlyFails_refuseClause _

theorem onlyFails_engine (clause : Clause) :
    OnlyFails Error.IsRefusal (engine clause).outcome := by
  induction clause with
  | comparison c => exact .ok _
  | group combinator children ih =>
    cases children with
    | nil => exact onlyFails_refuseClause _
    | cons first rest =>
      obtain ⟨hfirst, hrest⟩ := List.forall_mem_cons.mp ih
      exact hfirst.logged_bind fun _ => (onlyFails_agree hrest).logged_bind fun _ => .ok _
  | literal _ | column _ | compiled _ => exact onlyFails_refuseClause _

theorem onlyFails_split : ∀ clauses : List Clause,
    OnlyFails Error.IsRefusal (split clauses).outcome
  | [] => .ok _
  | clause :: rest => by
    refine (onlyFails_engine clause).logged_bind fun chosen => ?_
    refine (onlyFails_split rest).logged_bind fun others => ?_
    cases chosen <;> exact .ok _

end Clause

/-! ## Plans -/

namespace Query

variable {q : Query} {compiler : Compiler}

/-- The filters of a query can be split between the engines. -/
structure Splittable (q : Query) : Prop where
  /-- Nothing but comparisons and groups, at any depth. -/
  conditions : ∀ node ∈ Clause.nodesAll q.filters, node.IsCondition
  uniform : ∀ clause ∈ q.conjuncts, clause.IsUniform

/-- The search of a query: its conjuncts on search columns, with the first order of the search
engine if there is a limit. -/
def compileSearch (q : Query) (compiler : Compiler) : Except Error Predicate :=
  compiler.compile (q.conjunctsOf .search)
    (if q.limit.isSome then q.orders.find? Order.isSearch else none)
    (q.limit.getD 0) (q.offset.getD 0)

/-- Without a search there is no order by score. -/
def Scorable (q : Query) : Prop :=
  q.conjunctsOf .search = [] → ∀ direction, .score direction ∉ q.orders

/-- What a query needs to have a plan. -/
structure Plannable (q : Query) (compiler : Compiler) : Prop where
  splittable : q.Splittable
  scorable : q.Scorable
  search : q.conjunctsOf .search ≠ [] → ∃ p, q.compileSearch compiler = .ok p

theorem splittable_iff : q.Splittable ↔
    Clause.flattenAll q.filters = .ok q.conjuncts ∧
      (Clause.split q.conjuncts).outcome =
        .ok (q.conjunctsOf .search, q.conjunctsOf .relational) := by
  -- conjunctions that are taken apart are conditions themselves
  have hconditions := Clause.forall_nodesAll_iff (p := Clause.IsCondition) (fun _ => trivial)
    q.filters
  constructor
  · rintro ⟨hnodes, huniform⟩
    have hnodes' := hconditions.mp hnodes
    have hengines : ∀ c ∈ q.conjuncts, ∃ e, (Clause.engine c).outcome = .ok e :=
      fun c hc => Clause.isOk_engine_iff.mpr ⟨hnodes' c hc, huniform c hc⟩
    obtain ⟨⟨searched, filters⟩, hparts⟩ := Clause.isOk_split_iff.mpr hengines
    obtain ⟨-, rfl, rfl⟩ := Clause.split_eq_filter hparts
    exact ⟨Clause.flattenAll_eq_ok_iff.mpr fun c hc => hnodes' c hc c c.self_mem_nodes, hparts⟩
  · rintro ⟨-, hparts⟩
    have hengines := Clause.isOk_split_iff.mp ⟨_, hparts⟩
    exact ⟨hconditions.mpr fun c hc => (Clause.isOk_engine_iff.mp (hengines c hc)).1,
      fun c hc => (Clause.isOk_engine_iff.mp (hengines c hc)).2⟩

/-- The comparisons of the conjuncts of a query, from left to right. -/
def comparisons (q : Query) : List Comparison :=
  Clause.comparisonsAll q.conjuncts

/-- They are those of its filters. -/
theorem comparisons_eq (q : Query) : q.comparisons = Clause.comparisonsAll q.filters :=
  Clause.comparisonsAll_conjunctsAll q.filters

theorem Splittable.evaluates (h : q.Splittable) : ∀ clause ∈ q.conjuncts, ∃ e, clause.Evaluates e :=
  (Clause.split_eq_filter (splittable_iff.mp h).2).1

/-- Each engine compares its own columns. -/
theorem mem_comparisons_conjunctsOf (h : q.Splittable) {e : Engine} {c : Comparison} :
    c ∈ Clause.comparisonsAll (q.conjunctsOf e) ↔ c ∈ q.comparisons ∧ c.column.engine = e := by
  rw [comparisons, Clause.comparisonsAll_eq, Clause.comparisonsAll_eq, List.mem_flatMap,
    List.mem_flatMap]
  constructor
  · rintro ⟨clause, hclause, hc⟩
    obtain ⟨hmem, hof⟩ := List.mem_filter.mp hclause
    exact ⟨⟨clause, hmem, hc⟩, of_decide_eq_true (List.all_eq_true.mp hof c hc)⟩
  · rintro ⟨⟨clause, hmem, hc⟩, hengine⟩
    obtain ⟨other, hevaluates⟩ := h.evaluates clause hmem
    have hother : other = e := (hevaluates.2 c hc).symm.trans hengine
    have hof : clause.isOf e = true := by rw [hevaluates.isOf_eq, hother, decide_eq_true rfl]
    exact ⟨clause, List.mem_filter.mpr ⟨hmem, hof⟩, hc⟩

/-- An engine has something to do if one of its columns is compared. -/
theorem conjunctsOf_ne_nil_iff (h : q.Splittable) (e : Engine) :
    q.conjunctsOf e ≠ [] ↔ ∃ c ∈ q.comparisons, c.column.engine = e := by
  constructor
  · intro hne
    obtain ⟨clause, hclause⟩ := List.exists_mem_of_ne_nil _ hne
    obtain ⟨other, hcompares, -⟩ := h.evaluates clause (List.mem_filter.mp hclause).1
    obtain ⟨c, hc⟩ := List.exists_mem_of_ne_nil _ hcompares
    have hmem : c ∈ Clause.comparisonsAll (q.conjunctsOf e) := by
      rw [Clause.comparisonsAll_eq]
      exact List.mem_flatMap.mpr ⟨clause, hclause, hc⟩
    exact ⟨c, (mem_comparisons_conjunctsOf h).mp hmem⟩
  · rintro ⟨c, hc⟩ hnil
    have hmem := (mem_comparisons_conjunctsOf h).mpr hc
    rw [hnil] at hmem
    cases hmem

/-! ## Orders that are left -/

theorem demote_eq_ok_iff {searched : Bool} : ∀ {orders : List Order},
    (demote searched orders).outcome = .ok () ↔
      (searched = false → ∀ direction, .score direction ∉ orders)
  | [] => by simp [demote]
  | .column c direction :: rest => by
    rw [demote, Logged.outcome_note_bind, demote_eq_ok_iff]
    simp
  | .score direction :: rest => by
    rw [demote]
    cases searched with
    | false =>
      constructor
      · intro h
        cases h
      · intro h
        exact absurd List.mem_cons_self (h rfl direction)
    | true =>
      rw [if_pos rfl, Logged.outcome_note_bind, demote_eq_ok_iff]
      simp

theorem onlyFails_demote (searched : Bool) : ∀ orders : List Order,
    OnlyFails Error.IsRefusal (demote searched orders).outcome
  | [] => .ok ()
  | .column c direction :: rest => onlyFails_demote searched rest
  | .score direction :: rest => by
    rw [demote]
    split_ifs
    · exact onlyFails_demote searched rest
    · exact .error ⟨_, rfl⟩

theorem demoted_false : q.demoted false = q.searchOrders := by
  simp [demoted, fused]

theorem score_mem_searchOrders {direction : Direction} :
    .score direction ∈ q.searchOrders ↔ .score direction ∈ q.orders := by
  simp [searchOrders, Order.isSearch]

/-- Without a search an order by score is refused, and with one all orders can be left over. -/
theorem demote_demoted_eq_ok_iff {searched : Bool} :
    (demote searched (q.demoted searched)).outcome = .ok () ↔
      (searched = false → ∀ direction, .score direction ∉ q.orders) := by
  rw [demote_eq_ok_iff]
  refine forall_congr' fun hsearched => ?_
  rw [hsearched, demoted_false]
  exact forall_congr' fun direction => not_congr score_mem_searchOrders

/-! ## Outcomes -/

theorem search_conjunctsOf_eq_ok_iff {search : Option Predicate} :
    (q.search compiler (q.conjunctsOf .search)).outcome = .ok search ↔
      (q.conjunctsOf .search = [] ∧ search = none) ∨ (q.conjunctsOf .search ≠ [] ∧
        ∃ p, q.compileSearch compiler = .ok p ∧ search = some p) := by
  rw [search_eq_ok, fused_true]
  rfl

theorem isSome_search_eq_false_iff {search : Option Predicate}
    (h : (q.search compiler (q.conjunctsOf .search)).outcome = .ok search) :
    search.isSome = false ↔ q.conjunctsOf .search = [] := by
  rcases search_conjunctsOf_eq_ok_iff.mp h with ⟨hnil, rfl⟩ | ⟨hne, p, -, rfl⟩
  · simp [hnil]
  · simp [hne]

theorem search_eq_error {clauses : List Clause} {e : Error}
    (h : (q.search compiler clauses).outcome = .error e) : clauses ≠ [] ∧
      compiler.compile clauses (q.fused true) (q.limit.getD 0) (q.offset.getD 0) = .error e := by
  cases clauses with
  | nil => cases h
  | cons first rest =>
    rcases Logged.bind_eq_error.mp h with h | ⟨p, -, h⟩
    · exact ⟨List.cons_ne_nil _ _, h⟩
    · cases h

/-- A plan is made of the parts of a query that can be split. -/
theorem plan_eq_ok_iff {plan : Plan} : (q.plan compiler).outcome = .ok plan ↔
    q.Splittable ∧ ∃ search,
      (q.search compiler (q.conjunctsOf .search)).outcome = .ok search ∧
      (search.isSome = false → ∀ direction, .score direction ∉ q.orders) ∧
      plan = { search, filters := q.conjunctsOf .relational
               orders := q.relationalOrders ++ q.demoted search.isSome
               limit := if (q.fused search.isSome).isSome then none else q.limit
               offset := if (q.fused search.isSome).isSome then none else q.offset } := by
  rw [plan_eq_ok]
  constructor
  · rintro ⟨clauses, searched, filters, search, hclauses, hsplit, hsearch, hdemote, rfl⟩
    obtain rfl : clauses = q.conjuncts := Clause.eq_conjuncts_of_flattenAll hclauses
    obtain ⟨-, rfl, rfl⟩ := Clause.split_eq_filter hsplit
    exact ⟨splittable_iff.mpr ⟨hclauses, hsplit⟩, search, hsearch,
      demote_demoted_eq_ok_iff.mp hdemote, rfl⟩
  · rintro ⟨hsplittable, search, hsearch, hscore, rfl⟩
    obtain ⟨hclauses, hsplit⟩ := splittable_iff.mp hsplittable
    exact ⟨_, _, _, search, hclauses, hsplit, hsearch, demote_demoted_eq_ok_iff.mpr hscore, rfl⟩

theorem isOk_plan_iff : (∃ plan, (q.plan compiler).outcome = .ok plan) ↔ q.Plannable compiler := by
  constructor
  · rintro ⟨plan, hplan⟩
    obtain ⟨hsplittable, search, hsearch, hscore, -⟩ := plan_eq_ok_iff.mp hplan
    rcases search_conjunctsOf_eq_ok_iff.mp hsearch with ⟨hnil, rfl⟩ | ⟨hne, p, hp, rfl⟩
    · exact ⟨hsplittable, fun _ => hscore rfl, fun hne => absurd hnil hne⟩
    · exact ⟨hsplittable, fun hnil => absurd hnil hne, fun _ => ⟨p, hp⟩⟩
  · rintro ⟨hsplittable, hscorable, hsearch⟩
    by_cases hnil : q.conjunctsOf .search = []
    · have hnone : (q.search compiler (q.conjunctsOf .search)).outcome = .ok none :=
        search_conjunctsOf_eq_ok_iff.mpr (.inl ⟨hnil, rfl⟩)
      exact ⟨_, plan_eq_ok_iff.mpr ⟨hsplittable, none, hnone, fun _ => hscorable hnil, rfl⟩⟩
    · obtain ⟨p, hp⟩ := hsearch hnil
      have hsome : (q.search compiler (q.conjunctsOf .search)).outcome = .ok (some p) :=
        search_conjunctsOf_eq_ok_iff.mpr (.inr ⟨hnil, p, hp, rfl⟩)
      have hscore : (some p).isSome = false → ∀ direction, .score direction ∉ q.orders :=
        fun h => absurd h (by simp)
      exact ⟨_, plan_eq_ok_iff.mpr ⟨hsplittable, some p, hsome, hscore, rfl⟩⟩

/-- A plan fails because the query refuses to be split, or with the error of its search. -/
theorem plan_eq_error {e : Error} (h : (q.plan compiler).outcome = .error e) :
    (¬(q.Splittable ∧ q.Scorable) ∧ e.IsRefusal) ∨
      (q.Splittable ∧ q.conjunctsOf .search ≠ [] ∧ q.compileSearch compiler = .error e) := by
  rw [Query.plan] at h
  -- one stage after another; only the search has errors that are no refusals
  rcases Logged.bind_eq_error.mp h with hflatten | ⟨clauses, hclauses, h⟩
  · refine .inl ⟨fun hq => ?_, Clause.onlyFails_flattenAll q.filters e hflatten⟩
    rw [Logged.outcome_lift, (splittable_iff.mp hq.1).1] at hflatten
    cases hflatten
  obtain rfl : clauses = q.conjuncts := Clause.eq_conjuncts_of_flattenAll hclauses
  rcases Logged.bind_eq_error.mp h with hsplit | ⟨⟨searched, filters⟩, hparts, h⟩
  · refine .inl ⟨fun hq => ?_, Clause.onlyFails_split _ e hsplit⟩
    rw [(splittable_iff.mp hq.1).2] at hsplit
    cases hsplit
  obtain ⟨-, rfl, rfl⟩ := Clause.split_eq_filter hparts
  have hsplittable : q.Splittable := splittable_iff.mpr ⟨hclauses, hparts⟩
  rcases Logged.bind_eq_error.mp h with hsearch | ⟨search, hsearch, h⟩
  · obtain ⟨hne, hcompile⟩ := search_eq_error hsearch
    rw [fused_true] at hcompile
    exact .inr ⟨hsplittable, hne, hcompile⟩
  rcases Logged.bind_eq_error.mp h with hdemote | ⟨⟨⟩, -, h⟩
  · refine .inl ⟨fun hq => ?_, onlyFails_demote _ _ e hdemote⟩
    have hok := demote_demoted_eq_ok_iff.mpr fun hnone =>
      hq.2 ((isSome_search_eq_false_iff hsearch).mp hnone)
    rw [hok] at hdemote
    cases hdemote
  · cases h

/-- A query has a plan exactly if it is plannable. Otherwise it fails with the compiler's error if
only the search is at fault, and by refusing a clause or an order in all other cases. -/
theorem plan_outcome (q : Query) (compiler : Compiler) :
    ((∃ plan, (q.plan compiler).outcome = .ok plan) ↔ q.Plannable compiler) ∧
      ∀ e, (q.plan compiler).outcome = .error e →
        (q.Splittable ∧ q.Scorable → q.compileSearch compiler = .error e) ∧
          (¬(q.Splittable ∧ q.Scorable) → ∃ fault, e = .unsupportedClause fault) := by
  refine ⟨isOk_plan_iff, fun e h => ?_⟩
  rcases plan_eq_error h with ⟨hnot, hrefusal⟩ | ⟨hsplittable, hne, hcompile⟩
  · exact ⟨fun hq => absurd hq hnot, fun _ => hrefusal⟩
  · exact ⟨fun _ => hcompile, fun hnot => absurd ⟨hsplittable, fun hnil => absurd hnil hne⟩ hnot⟩

/-- An empty conjunction is no filter at all, but in a disjunction there can be none. -/
theorem plan_outcome_empty :
    Plannable { filters := [.all []] } {} ∧
      ∃ q : Query,
        q.filters = [.any [Column.lt ⟨"products", "price", .search⟩ (.literal (.integer 5)),
          .all []]] ∧
        ¬(q.Splittable ∧ q.Scorable) ∧
        ∃ e, (q.plan {}).outcome = .error e ∧ ∃ fault, e = .unsupportedClause fault := by
  refine ⟨(plan_outcome _ {}).1.mp ⟨_, rfl⟩, { filters := _ }, rfl, ?_⟩
  suffices hnot : ¬(Splittable _ ∧ Scorable _) from
    ⟨hnot, _, rfl, ((plan_outcome _ {}).2 _ rfl).2 hnot⟩
  rintro ⟨hsplittable, -⟩
  refine (hsplittable.uniform _ List.mem_cons_self).nonempty (.all []) ?_ ⟨.and, rfl⟩
  simp [Clause.nodes, Clause.nodesAll, Clause.all]

end Query

end HybridQuery
