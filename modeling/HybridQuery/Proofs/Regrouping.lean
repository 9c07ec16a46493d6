import HybridQuery.Proofs.Building
import HybridQuery.Proofs.Splitting

/-!
# How a query is put together

Filters can be given one by one or in conjunctions, nested in any way, and between them orders,
limits and offsets in any sequence. None of that can be told from the plan. Flattening looks at
the conjuncts of the filters from left to right and at nothing else
(`Clause.flattenAll_conjunctsAll`), and it is done before anything is split, so even the clause that
is refused, and the events on the way, are the same (`Query.plan_conjuncts`).

`Query.plan_build_congr` says so of any two sequences of steps.
-/

namespace HybridQuery

namespace Clause

/-! ## Flattening -/

theorem flattenAll_append (others : List Clause) : ∀ clauses : List Clause,
    flattenAll (clauses ++ others) =
      flattenAll clauses >>= fun cs => flattenAll others >>= fun ds => .ok (cs ++ ds)
  | [] => by
    rw [List.nil_append, flattenAll]
    cases flattenAll others <;> rfl
  | clause :: rest => by
    rw [List.cons_append, flattenAll, flattenAll, flattenAll_append others rest]
    cases flatten clause with
    | error e => rfl
    | ok cs =>
      cases flattenAll rest with
      | error e => rfl
      | ok ds =>
        cases flattenAll others with
        | error e => rfl
        | ok es => exact congrArg Except.ok (List.append_assoc cs ds es).symm

theorem flattenAll_singleton (clause : Clause) : flattenAll [clause] = flatten clause := by
  rw [flattenAll]
  cases flatten clause with
  | error e => rfl
  | ok cs => exact congrArg Except.ok (List.append_nil cs)

theorem flattenAll_conjunctsAll_of_forall {clauses : List Clause}
    (h : ∀ c ∈ clauses, flattenAll (conjuncts c) = flatten c) :
    flattenAll (conjunctsAll clauses) = flattenAll clauses := by
  induction clauses with
  | nil => rfl
  | cons first rest ih =>
    obtain ⟨hfirst, hrest⟩ := List.forall_mem_cons.mp h
    rw [conjunctsAll_cons, flattenAll_append, hfirst, ih hrest, flattenAll]

/-- What a clause is flattened to, or why it cannot be, is decided by its conjuncts. -/
theorem flattenAll_conjuncts (clause : Clause) :
    flattenAll (conjuncts clause) = flatten clause := by
  induction clause with
  | group combinator children ih =>
    cases combinator with
    | or => exact flattenAll_singleton _
    | and => exact flattenAll_conjunctsAll_of_forall ih
  | comparison _ | literal _ | column _ | compiled _ => exact flattenAll_singleton _

theorem flattenAll_conjunctsAll (clauses : List Clause) :
    flattenAll (conjunctsAll clauses) = flattenAll clauses :=
  flattenAll_conjunctsAll_of_forall fun c _ => flattenAll_conjuncts c

end Clause

namespace Query

/-- Conjunctions can be taken apart before planning. -/
theorem plan_conjuncts (q : Query) (compiler : Compiler) :
    Query.plan { q with filters := q.conjuncts } compiler = q.plan compiler := by
  rw [plan, plan, conjuncts, Clause.flattenAll_conjunctsAll]
  rfl

/-- Two ways to build a query end in the same plan, or in the same error, with the same events, if
they agree on the filters with all conjunctions taken apart, on the orders, and on the limit and
the offset that are set last. -/
theorem plan_build_congr (compiler : Compiler) (steps others : List Step)
    (hfilters : Clause.conjunctsAll (steps.filterMap Step.filter?) =
      Clause.conjunctsAll (others.filterMap Step.filter?))
    (horders : steps.filterMap Step.order? = others.filterMap Step.order?)
    (hlimit : steps.reverse.findSome? Step.limit? = others.reverse.findSome? Step.limit?)
    (hoffset : steps.reverse.findSome? Step.offset? = others.reverse.findSome? Step.offset?) :
    (build steps).plan compiler = (build others).plan compiler := by
  rw [← plan_conjuncts (build steps), ← plan_conjuncts (build others)]
  simp only [build_eq, conjuncts, hfilters, horders, hlimit, hoffset]

/-- Both queries are refused for the raw text, which comes before an empty disjunction. -/
theorem plan_build_congr_refused :
    ((build [.limit 5, .filter (.all [Column.lt ⟨"products", "price", .search⟩
          (.literal (.integer 5)), .all [.literal (.raw "beer"), .all []]]),
        .filter (.any []), .limit 10]).plan {}).outcome =
      ((build [.filter (Column.lt ⟨"products", "price", .search⟩ (.literal (.integer 5))),
        .limit 10, .filter (.all []), .filter (.literal (.raw "beer")),
        .filter (.all [.any []])]).plan {}).outcome ∧
    ((build [.filter (Column.lt ⟨"products", "price", .search⟩ (.literal (.integer 5))),
        .limit 10, .filter (.all []), .filter (.literal (.raw "beer")),
        .filter (.all [.any []])]).plan {}).outcome =
      .error (.unsupportedClause (.literalFilter .raw)) := by
  constructor
  · exact congrArg Logged.outcome (plan_build_congr {} _ _ rfl rfl rfl rfl)
  · rfl

end Query

end HybridQuery
