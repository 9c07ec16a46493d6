import HybridQuery.Proofs.AlikeClauses
import HybridQuery.Proofs.BoundValues
import HybridQuery.Proofs.Planning
import HybridQuery.Relational.Select

/-!
# Values are bound, not written

A plan adds conditions to a statement, and the literals of its filters are no part of the SQL. Two
queries whose relational filters are alike, and that do not differ otherwise, have plans that differ
in these filters at most (`Query.plan_of_related`), and a statement that one plan or the other is
applied to has the same SQL. Its values are those of the conditions it had, of the filters one after
another, and of the limit and the offset that are left (`Select.apply_binds`).
-/

namespace HybridQuery

/-! ## Queries that differ in the values of relational filters -/

/-- On a search column the comparisons are the same, else they are alike. -/
def Comparison.AlikeIfRelational (a b : Comparison) : Prop :=
  if a.column.isSearch then a = b else a.Alike b

theorem Operand.Alike.refl : ∀ x : Operand, x.Alike x
  | .literal _ => .literal rfl
  | .column c => .column c
  | .list values => .list (List.forall₂_refl values)

theorem Comparison.AlikeIfRelational.alike {a b : Comparison} (h : a.AlikeIfRelational b) :
    a.Alike b := by
  unfold AlikeIfRelational at h
  split at h
  · subst h
    exact ⟨rfl, rfl, .refl _⟩
  · exact h

namespace Clause.Related

variable {r r' : Comparison → Comparison → Prop}

theorem mono (hr : ∀ a b, r a b → r' a b) {a b : Clause} (h : Related r a b) :
    Related r' a b := by
  refine h.tree ?_ ?_ .literal .column .compiled
  · exact fun a b h => .comparison (hr a b h)
  · exact fun combinator as bs _ ih => .group combinator ih

/-- The comparisons of related clauses are related one by one. -/
theorem comparisons {a b : Clause} (h : Related r a b) :
    List.Forall₂ r a.comparisons b.comparisons := by
  refine h.tree ?comparison ?group ?_ ?_ ?_
  case comparison => exact fun a b h => .cons h .nil
  case group =>
    intro combinator as bs _ ih
    rw [comparisons_group, comparisons_group, List.flatMap_def, List.flatMap_def]
    exact List.rel_flatten (List.forall₂_map_left_iff.mpr (List.forall₂_map_right_iff.mpr ih))
  all_goals exact fun _ => .nil

theorem conjunctsAll_of_forall₂ {as bs : List Clause}
    (h : List.Forall₂ (fun a b => List.Forall₂ (Related r) a.conjuncts b.conjuncts) as bs) :
    List.Forall₂ (Related r) (conjunctsAll as) (conjunctsAll bs) := by
  induction h with
  | nil => exact .nil
  | cons hfirst _ ih => exact List.rel_append hfirst ih

/-- So are their conjuncts. -/
theorem conjuncts {a b : Clause} (h : Related r a b) :
    List.Forall₂ (Related r) a.conjuncts b.conjuncts := by
  refine h.tree ?_ (fun combinator as bs h ih => ?_) ?_ ?_ ?_
  · exact fun a b h => .cons (.comparison h) .nil
  · cases combinator with
    | and => exact conjunctsAll_of_forall₂ ih
    | or => exact .cons (.group .or h) .nil
  · exact fun value => .cons (.literal value) .nil
  · exact fun c => .cons (.column c) .nil
  · exact fun p => .cons (.compiled p) .nil

end Clause.Related

namespace Clause

variable {a b : Clause}

/-- Clauses that differ in values are of one engine. -/
theorem isOf_eq_of_alike (h : a.Alike b) (e : Engine) : a.isOf e = b.isOf e := by
  have hengines : a.comparisons.map (·.column.engine) = b.comparisons.map (·.column.engine) := by
    rw [← List.forall₂_eq_eq_eq, List.forall₂_map_left_iff, List.forall₂_map_right_iff]
    exact h.comparisons.imp fun x y hxy => congrArg Column.engine hxy.column
  have hall (clause : Clause) : clause.isOf e =
      (clause.comparisons.map (·.column.engine)).all (· = e) := by
    rw [isOf, List.all_map]
    rfl
  rw [hall, hall, hengines]

/-- On search columns nothing differs. -/
theorem eq_of_isOf_search (h : Related Comparison.AlikeIfRelational a b)
    (hsearch : a.isOf .search = true) : a = b := by
  have hcolumns : ∀ c ∈ a.comparisons, c.column.isSearch = true := by
    simpa [isOf, Column.isSearch] using hsearch
  revert hcolumns
  refine h.tree ?comparison ?group ?_ ?_ ?_
  case comparison =>
    intro x y h hcolumns
    rw [comparisons_comparison, List.forall_mem_singleton] at hcolumns
    rw [Comparison.AlikeIfRelational, if_pos hcolumns] at h
    rw [h]
  case group =>
    intro combinator as bs _ ih hcolumns
    rw [comparisons_group, List.forall_mem_flatMap] at hcolumns
    have heq : List.Forall₂ (· = ·) as bs :=
      forall₂_imp_of_mem ih fun a ha b hab => hab (hcolumns a ha)
    rw [List.forall₂_eq_eq_eq] at heq
    rw [heq]
  all_goals exact fun _ _ => rfl

end Clause

namespace Query

variable {q : Query} {filters : List Clause} {compiler : Compiler} {plan plan' : Plan}

theorem forall₂_conjunctsOf
    (h : List.Forall₂ (Clause.Related Comparison.AlikeIfRelational) q.filters filters)
    (e : Engine) : List.Forall₂ (Clause.Related Comparison.AlikeIfRelational) (q.conjunctsOf e)
      (conjunctsOf { q with filters } e) := by
  have hconjuncts := Clause.Related.conjunctsAll_of_forall₂
    (h.imp fun _ _ => Clause.Related.conjuncts)
  refine List.rel_filter (fun a b hab => ?_) hconjuncts
  have halike : a.Alike b := hab.mono fun _ _ => Comparison.AlikeIfRelational.alike
  simp only [Clause.isOf_eq_of_alike halike e]

/-- The plans of two queries whose relational filters are alike differ in these at most. -/
theorem plan_of_related
    (h : List.Forall₂ (Clause.Related Comparison.AlikeIfRelational) q.filters filters)
    (hplan : (q.plan compiler).outcome = .ok plan)
    (hplan' : (Query.plan { q with filters } compiler).outcome = .ok plan') :
    List.Forall₂ Clause.Alike plan.filters plan'.filters ∧
      plan' = { plan with filters := plan'.filters } := by
  obtain ⟨-, search, hsearch, -, rfl⟩ := plan_eq_ok_iff.mp hplan
  obtain ⟨-, search', hsearch', -, rfl⟩ := plan_eq_ok_iff.mp hplan'
  have hsearched : List.Forall₂ (· = ·) (q.conjunctsOf .search)
      (conjunctsOf { q with filters } .search) :=
    forall₂_imp_of_mem (forall₂_conjunctsOf h .search) fun a ha b hab =>
      Clause.eq_of_isOf_search hab (List.mem_filter.mp ha).2
  rw [List.forall₂_eq_eq_eq] at hsearched
  rw [← hsearched] at hsearch'
  obtain rfl : search = search' := Except.ok.inj (hsearch.symm.trans hsearch')
  refine ⟨(forall₂_conjunctsOf h .relational).imp fun _ _ hab => ?_, rfl⟩
  exact hab.mono fun _ _ => Comparison.AlikeIfRelational.alike

end Query

/-! ## Statements that a plan is applied to -/

namespace Select

theorem values_part (keyword : String) (s : Statement) : (part keyword s).values = s.values := by
  cases s <;> rfl

theorem values_count (n : Option UInt64) : (count n).values = n.toList.map Value.count := by
  cases n <;> rfl

theorem values_condition (s : Select) :
    s.condition.values = s.conditions.flatMap fun c => c.statement.values := by
  unfold condition
  split
  case h_1 hnone => rw [hnone]; rfl
  case h_2 => exact Condition.values_joinAll .and _

/-- A statement has the values of its conditions, its limit and its offset. -/
theorem values_statement (s : Select) : s.statement.values =
    (s.conditions.flatMap fun c => c.statement.values) ++ s.limit.toList.map .count ++
      s.offset.toList.map .count := by
  have hsorts : (s.sorts.map SortKey.statement).flatMap Statement.values = [] := by
    rw [List.flatMap_map, List.flatMap_eq_nil_iff]
    intro key _
    rw [SortKey.statement]
    split <;> rfl
  simp only [statement, Statement.values, Statement.values_append, values_part, values_condition,
    values_count, Statement.values_separated, hsorts, List.append_nil]

theorem skeleton_part (keyword : String) {s t : Statement} (h : s.skeleton = t.skeleton) :
    (part keyword s).skeleton = (part keyword t).skeleton := by
  cases s with
  | nil =>
    obtain rfl : t = [] := List.map_eq_nil_iff.mp h.symm
    rfl
  | cons piece s =>
    cases t with
    | nil => cases h
    | cons piece' t => exact congrArg (some keyword :: ·) h

theorem skeleton_condition {s : Select} {conditions : List Condition}
    (h : List.Forall₂ Condition.Alike s.conditions conditions) :
    s.condition.skeleton = (condition { s with conditions }).skeleton := by
  unfold condition
  generalize s.conditions = cs at h
  cases h with
  | nil => rfl
  | cons hfirst hrest => exact (Condition.Alike.joinAll .and (.cons hfirst hrest)).skeleton

/-- Conditions that are alike are written alike in a statement. -/
theorem skeleton_statement {s : Select} {conditions : List Condition}
    (h : List.Forall₂ Condition.Alike s.conditions conditions) :
    s.statement.skeleton = (statement { s with conditions }).skeleton := by
  simp only [statement, Statement.skeleton_text, Statement.skeleton_append,
    skeleton_part _ (skeleton_condition h)]

/-- The statement that a plan is applied to, with the conditions of the plan's filters. -/
theorem apply_eq_ok {s t : Select} {plan : Plan} : s.apply plan = .ok t ↔
    ∃ filters sorts, List.Forall₂ (fun a c => Clause.condition a = .ok c) plan.filters filters ∧
      plan.orders.mapM (Order.sortKey (plan.search.map Predicate.table)) = .ok sorts ∧
      { s with
        conditions := s.conditions ++
          (plan.search.toList.map fun p => Condition.search p.sql) ++ filters
        sorts := s.sorts ++ sorts
        limit := plan.limit.or s.limit
        offset := plan.offset.or s.offset } = t := by
  simp only [apply, bind_eq_ok, Clause.conditions_eq_ok, Except.ok.injEq, exists_and_left]

/-- Plans of queries whose relational filters are alike make the same SQL. -/
theorem sql_apply_eq {q : Query} {filters : List Clause} {compiler : Compiler}
    {plan plan' : Plan} {s t t' : Select}
    (h : List.Forall₂ (Clause.Related Comparison.AlikeIfRelational) q.filters filters)
    (hplan : (q.plan compiler).outcome = .ok plan)
    (hplan' : (Query.plan { q with filters } compiler).outcome = .ok plan')
    (ht : s.apply plan = .ok t) (ht' : s.apply plan' = .ok t') :
    t.statement.sql = t'.statement.sql := by
  obtain ⟨hfilters, hrest⟩ := Query.plan_of_related h hplan hplan'
  rw [hrest] at ht'
  obtain ⟨cs, sorts, hcs, hsorts, rfl⟩ := apply_eq_ok.mp ht
  obtain ⟨cs', sorts', hcs', hsorts', rfl⟩ := apply_eq_ok.mp ht'
  obtain rfl : sorts = sorts' := Except.ok.inj (hsorts.symm.trans hsorts')
  have halike : List.Forall₂ Condition.Alike cs cs' := Clause.Alike.conditions hfilters cs cs'
    (Clause.conditions_eq_ok.mpr hcs) (Clause.conditions_eq_ok.mpr hcs')
  refine Statement.sqlFrom_congr 1 (skeleton_statement (List.rel_append ?_ halike))
  exact List.forall₂_same.mpr fun c _ => .refl c

/-- A statement that a plan is applied to has the values of the conditions it had, of the filters
one after another, and of the limit and the offset that did not go into the search. -/
theorem values_apply {q : Query} {compiler : Compiler} {plan : Plan} {s t : Select}
    (hplan : (q.plan compiler).outcome = .ok plan) (ht : s.apply plan = .ok t) :
    let left (n : Option UInt64) := if (q.fused plan.search.isSome).isSome then none else n
    ∃ filters, List.Forall₂ (fun a c => Clause.condition a = .ok c) plan.filters filters ∧
      t.statement.values = (s.conditions.flatMap fun c => c.statement.values) ++
        (filters.flatMap fun c => c.statement.values) ++
          ((left q.limit).or s.limit).toList.map .count ++
            ((left q.offset).or s.offset).toList.map .count := by
  obtain ⟨-, search, -, -, rfl⟩ := Query.plan_eq_ok_iff.mp hplan
  obtain ⟨cs, sorts, hcs, -, rfl⟩ := apply_eq_ok.mp ht
  refine ⟨cs, hcs, ?_⟩
  have hsearch : ((search.toList.map fun p => Condition.search p.sql).flatMap fun c =>
      c.statement.values) = [] := by
    cases search <;> rfl
  simp only [values_statement, List.flatMap_append, hsearch, List.append_nil]

/-- The values of literals are bound and not written. Clauses that are alike have the same SQL,
and a condition binds the values of its literals in their order, except that an empty list binds
two values of its own. Queries whose relational filters are alike lead to the same SQL, which binds
the values of the filters one after another, and then the limit and the offset that did not go into
the search. -/
theorem apply_binds :
    (∀ {a b : Clause} {c d : Condition}, a.Alike b → a.condition = .ok c → b.condition = .ok d →
      c.statement.sql = d.statement.sql) ∧
    (∀ {a : Clause} {c : Condition}, a.condition = .ok c →
      (∀ x ∈ a.comparisons, ¬x.IsVacuous) → Literal.Bind a.literals c.statement.values) ∧
    (∀ {q : Query} {filters : List Clause} {compiler : Compiler} {plan plan' : Plan}
        {s t t' : Select},
      List.Forall₂ (Clause.Related Comparison.AlikeIfRelational) q.filters filters →
      (q.plan compiler).outcome = .ok plan →
      (Query.plan { q with filters } compiler).outcome = .ok plan' →
      s.apply plan = .ok t → s.apply plan' = .ok t' → t.statement.sql = t'.statement.sql) ∧
    ∀ {q : Query} {compiler : Compiler} {plan : Plan} {s t : Select},
      (q.plan compiler).outcome = .ok plan → s.apply plan = .ok t →
      let left (n : Option UInt64) := if (q.fused plan.search.isSome).isSome then none else n
      ∃ filters, List.Forall₂ (fun a c => Clause.condition a = .ok c) plan.filters filters ∧
        t.statement.values = (s.conditions.flatMap fun c => c.statement.values) ++
          (filters.flatMap fun c => c.statement.values) ++
            ((left q.limit).or s.limit).toList.map .count ++
              ((left q.offset).or s.offset).toList.map .count :=
  ⟨Clause.sql_eq_of_alike, Clause.binds_condition _ _, sql_apply_eq, values_apply⟩

/-- Quotes in a value, null beside a list, numbers, a truth value and a date, and a search that
takes no limit. -/
theorem apply_binds_quotes :
    let column (name : String) : Column := ⟨"products", name, .relational⟩
    let filter (x y : String) (n : Int64) (r : Binary64) (b : Bool) (t : DateTime) : Clause :=
      .any [(column "name").isNot (.literal (.string x)), (column "name").eq (.literal .null),
        (column "name").isIn [.string y, .phrase "z"],
        .all [(column "stock").gte (.literal (.integer n)),
          (column "rating").lt (.literal (.float r)), (column "sold").ne (.literal (.boolean b)),
          (column "since").gt (.literal (.dateTime t))]]
    let noon : DateTime := { year := 2024, month := 2, day := 29, hour := 12 }
    let night : DateTime := { year := 2025, month := 7, day := 1, hour := 0, offsetHours := 2 }
    let written := filter "it's" "x" 7 ⟨0x3ff8000000000000⟩ true noon
    let other := filter "' OR TRUE" "" (-1) ⟨0⟩ false night
    let values : List Value := [.string "it's", .string "x", .string "z", .integer 7,
      .float ⟨0x3ff8000000000000⟩, .boolean true, .string "2024-02-29T12:00:00Z"]
    let q (filter : Clause) : Query :=
      { filters := [Column.lt ⟨"products", "price", .search⟩ (.literal (.integer 5)), filter]
        limit := some 10, offset := some 5 }
    let s : Select := ⟨.everything, "products", [], [], none, none⟩
    (∃ c d, written.condition = .ok c ∧ other.condition = .ok d ∧
      c.statement.sql = d.statement.sql ∧
        Literal.Bind [.string "it's", .string "x", .phrase "z", .integer 7,
          .float ⟨0x3ff8000000000000⟩, .boolean true, .dateTime noon] c.statement.values ∧
        c.statement.values = values) ∧
    ∃ plan plan' t t', ((q written).plan {}).outcome = .ok plan ∧
      ((q other).plan {}).outcome = .ok plan' ∧
      s.apply plan = .ok t ∧ s.apply plan' = .ok t' ∧ t.statement.sql = t'.statement.sql ∧
      t.statement.values = values ++ [.count 10, .count 5] := by
  intro column filter noon night written other values q s
  obtain ⟨hsql, hbinds, happly, hvalues⟩ := apply_binds
  have hnoon : noon.rfc3339 = .ok "2024-02-29T12:00:00Z" := by cbv
  have hnight : night.rfc3339 = .ok "2025-07-01T00:00:00+02:00" := by cbv
  let condition (x y : String) (n : Int64) (r : Binary64) (b : Bool) (text : String) : Condition :=
    .joinAll .or [.test (.compare (column "name") .distinct (.value (.string x))),
      .test (.isNull (column "name")), .test (.isIn (column "name") [.string y, .string "z"]),
      .joinAll .and [.test (.compare (column "stock") .gte (.value (.integer n))),
        .test (.compare (column "rating") .lt (.value (.float r))),
        .test (.compare (column "sold") .ne (.value (.boolean b))),
        .test (.compare (column "since") .gt (.value (.string text)))]]
  let plan (filter : Clause) : Plan :=
    { search := some ⟨"products", "price < 5", []⟩, filters := [filter], orders := []
      limit := some 10, offset := some 5 }
  let t (condition : Condition) : Select :=
    { s with
      conditions := [.search "zdb('products', ctid) ==> 'price < 5'", condition]
      limit := some 10, offset := some 5 }
  have hcondition (x y : String) (n : Int64) (r : Binary64) (b : Bool) {t : DateTime}
      {text : String} (htext : t.rfc3339 = .ok text) :
      (filter x y n r b t).condition = .ok (condition x y n r b text) := by
    have hdate : ((column "since").gt (.literal (.dateTime t))).condition =
        .ok (.test (.compare (column "since") .gt (.value (.string text)))) := by
      have hterm : Operand.term (.literal (.dateTime t)) = .ok (.value (.string text)) :=
        Operand.term_eq_ok_iff.mpr (.literal (.dateTime htext))
      exact Clause.condition_comparison_eq_ok.mpr ⟨_, map_eq_ok.mpr ⟨_, hterm, rfl⟩, rfl⟩
    have hall : (Clause.all [(column "stock").gte (.literal (.integer n)),
        (column "rating").lt (.literal (.float r)), (column "sold").ne (.literal (.boolean b)),
        (column "since").gt (.literal (.dateTime t))]).condition = .ok _ :=
      Clause.condition_group_eq_ok.mpr
        ⟨_, .cons rfl (.cons rfl (.cons rfl (.cons hdate .nil))), rfl⟩
    exact Clause.condition_group_eq_ok.mpr
      ⟨_, .cons rfl (.cons rfl (.cons rfl (.cons hall .nil))), rfl⟩
  have hwritten := hcondition "it's" "x" 7 ⟨0x3ff8000000000000⟩ true hnoon
  have hother := hcondition "' OR TRUE" "" (-1) ⟨0⟩ false hnight
  have hplan : ((q written).plan {}).outcome = .ok (plan written) := by
    simp only [q, plan, written, filter, column, noon]
    rfl
  have hplan' : ((q other).plan {}).outcome = .ok (plan other) := by
    simp only [q, plan, other, filter, column, night]
    rfl
  have ht (filter : Clause) {c : Condition} (h : filter.condition = .ok c) :
      s.apply (plan filter) = .ok (t c) :=
    apply_eq_ok.mpr ⟨[c], [], .cons h .nil, rfl, rfl⟩
  have halike : written.Related Comparison.AlikeIfRelational other := by
    refine .group .or (.cons (.comparison ?_) (.cons (.comparison ?_) (.cons (.comparison ?list)
      (.cons (.group .and (.cons (.comparison ?_) (.cons (.comparison ?_) (.cons (.comparison ?_)
        (.cons (.comparison ?_) .nil))))) .nil))))
    case list => exact ⟨rfl, rfl, .list (.cons rfl (.cons rfl .nil))⟩
    all_goals exact ⟨rfl, rfl, .literal rfl⟩
  have hsearched : Clause.Related Comparison.AlikeIfRelational
      (Column.lt ⟨"products", "price", .search⟩ (.literal (.integer 5)))
      (Column.lt ⟨"products", "price", .search⟩ (.literal (.integer 5))) := .comparison rfl
  have hvacuous : ∀ x ∈ written.comparisons, ¬x.IsVacuous := by
    simp [written, filter, Clause.any, Clause.all, Column.isNot, Column.eq, Column.isIn,
      Column.gte, Column.lt, Column.ne, Column.gt, Column.compare, Comparison.IsVacuous]
  obtain ⟨fs, hfs, hbound⟩ := hvalues hplan (ht written hwritten)
  refine ⟨⟨_, _, hwritten, hother, ?_, hbinds hwritten hvacuous, by cbv⟩, _, _, _, _, hplan, hplan',
    ht _ hwritten, ht _ hother, ?_, ?_⟩
  · exact hsql (halike.mono fun _ _ => Comparison.AlikeIfRelational.alike) hwritten hother
  · exact happly (.cons hsearched (.cons halike .nil)) hplan hplan' (ht _ hwritten) (ht _ hother)
  · cases hfs with
    | cons h hnil =>
      cases hnil
      obtain rfl := Except.ok.inj (hwritten.symm.trans h)
      exact hbound

end Select

end HybridQuery
