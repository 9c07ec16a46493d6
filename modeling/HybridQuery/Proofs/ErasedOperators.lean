import HybridQuery.Proofs.Searchable

/-!
# Erasing operators from a dialect

Without some of its operators the search engine's syntax has no form for the comparisons that use
them, and everything else is written as before. `Loses` tells what becomes of a computation: it
stays if none of the comparisons in it uses an erased operator, and otherwise it ends in the error
of the leftmost one that does. Each step of a compilation loses operators in this way
(`loses_renderClause`, `Compiler.loses_renderQuery`), since the dialect is only asked for the
form of an operator: the scripts of the search engine's syntax have no clauses rendered
(`Script.IsFlat`).

`Compiler.compile_erase` is the statement about whole searches. An erased operator is reported
before anything that goes wrong behind the clauses, such as a stray mark or a second table.
-/

namespace HybridQuery

/-! ## Dialects and their scripts -/

/-- An operator has the form that it had, unless it is erased. -/
theorem Dialect.form?_foldl_erase (op : Operator) : ∀ (ops : List Operator) (d : Dialect),
    (ops.foldl Dialect.erase d).form? op = if op ∈ ops then none else d.form? op
  | [], d => rfl
  | first :: rest, d => by
    rw [List.foldl_cons, form?_foldl_erase op rest, erase]
    by_cases hfirst : op = first
    · simp [hfirst]
    · simp [hfirst]

theorem Dialect.form_foldl_erase_of_not_mem {op : Operator} {ops : List Operator} (h : op ∉ ops)
    (d : Dialect) : (ops.foldl Dialect.erase d).form op = d.form op := by
  rw [form, form, form?_foldl_erase, if_neg h]

theorem Dialect.form_foldl_erase_of_mem {op : Operator} {ops : List Operator} (h : op ∈ ops)
    (d : Dialect) : (ops.foldl Dialect.erase d).form op = .error (.unsupportedOperator op) := by
  rw [form, form?_foldl_erase, if_pos h]

/-- A script that has no clauses rendered. -/
def Script.IsFlat : Script → Prop
  | .done _ => True
  | .operand _ next => ∀ result, (next result).IsFlat
  | .clause _ _ => False

/-- Nothing nested has a part in a script without clauses. -/
theorem Script.run_eq_of_isFlat (nested other : Clause → Rendered) :
    ∀ script : Script, script.IsFlat → script.run nested = script.run other
  | .done _, _ => rfl
  | .operand value next, h => by
    have hnext (result : Except Error String) :
        (next result).run nested = (next result).run other :=
      run_eq_of_isFlat nested other (next result) (h result)
    simp only [run, hnext]
  | .clause _ _, h => h.elim

theorem Script.isFlat_withOperand (lead : String) (operand : Operand) :
    (withOperand lead operand).IsFlat := by
  intro result
  cases result <;> trivial

/-- The scripts of the search engine's syntax ask for nothing but operands. -/
theorem Dialect.isFlat_standard {op : Operator} {script : Column → Operand → Script}
    (h : Dialect.standard.form op = .ok (.script script)) (c : Column) (operand : Operand) :
    (script c operand).IsFlat := by
  cases op with
  | eq | ne | gt | gte | lt | lte | «matches» | isNot => cases h
  | between =>
    cases h
    match operand with
    | .literal _ | .column _ | .list [] | .list [_] | .list (_ :: _ :: _ :: _) => trivial
    | .list [low, high] =>
      rw [Script.between]
      split_ifs <;> trivial
  | like =>
    cases h
    cases operand with
    | column other => exact Script.isFlat_withOperand _ _
    | list values => trivial
    | literal value =>
      cases value with
      | phrase _ => exact Script.isFlat_withOperand _ _
      | pattern _ | string _ | integer _ | float _ | boolean _ | null | raw _ | table _
      | dateTime _ => trivial
  | isIn =>
    cases h
    cases operand with
    | literal _ | column _ => trivial
    | list values =>
      rw [Script.isIn]
      split_ifs
      · exact Script.isFlat_withOperand _ _
      · trivial

/-! ## Lost computations -/

section Losing

variable {α β : Type} {ops : List Operator} {comparisons others : List Comparison}

/-- What `y` is of `x` when the operators are gone: `x` itself if the comparisons use none of them,
and else the error of the first comparison that uses one. -/
structure Loses (ops : List Operator) (comparisons : List Comparison) (x y : Logged Note α) :
    Prop where
  kept : (∀ c ∈ comparisons, c.operator ∉ ops) → y = x
  lost : ∀ before c, First (fun c => c.operator ∈ ops) before c comparisons →
    y.outcome = .error (.unsupportedOperator c.operator)

namespace Loses

theorem refl (x : Logged Note α) : Loses ops [] x x :=
  ⟨fun _ => rfl, fun _ _ h => (First.not_nil h).elim⟩

/-- Of two steps the first one decides if it uses an erased operator, and else the second one. -/
protected theorem bind {x y : Logged Note α} {f g : α → Logged Note β} {a : α}
    (hxy : Loses ops comparisons x y) (hx : x.outcome = .ok a)
    (hfg : Loses ops others (f a) (g a)) :
    Loses ops (comparisons ++ others) (x >>= f) (y >>= g) where
  kept h := by
    obtain ⟨hcomparisons, hothers⟩ := List.forall_mem_append.mp h
    rw [hxy.kept hcomparisons, Logged.bind_of_ok hx, Logged.bind_of_ok hx, hfg.kept hothers]
  lost before c h := by
    rcases h.of_append with h | ⟨hcomparisons, rest, -, h⟩
    · rw [Logged.bind_of_error (hxy.lost before c h)]
    · rw [hxy.kept hcomparisons, Logged.bind_of_ok hx]
      exact hfg.lost rest c h

/-- What follows in the same way has no part in it. -/
protected theorem andThen {x y : Logged Note α} {a : α} (hxy : Loses ops comparisons x y)
    (hx : x.outcome = .ok a) (f : α → Logged Note β) :
    Loses ops comparisons (x >>= f) (y >>= f) := by
  have hbind := hxy.bind hx (refl (f a))
  rwa [List.append_nil] at hbind

protected theorem note {f g : Unit → Logged Note β} (entry : Note)
    (hfg : Loses ops comparisons (f ()) (g ())) :
    Loses ops comparisons (Logged.note entry >>= f) (Logged.note entry >>= g) :=
  (refl (Logged.note entry)).bind rfl hfg

/-- Of the items of a list the first one decides that uses an erased operator. -/
protected theorem each {f g : α → Logged Note β} {comparisons : α → List Comparison} :
    ∀ {as : List α} {bs : List β}, (Logged.each f as).outcome = .ok bs →
      (∀ a ∈ as, ∀ b, (f a).outcome = .ok b → Loses ops (comparisons a) (f a) (g a)) →
      Loses ops (as.flatMap comparisons) (Logged.each f as) (Logged.each g as)
  | [], _, _, _ => refl _
  | a :: rest, _, hok, h => by
    obtain ⟨hfirst, hrest⟩ := List.forall_mem_cons.mp h
    obtain ⟨b, hb, hok⟩ := Logged.bind_eq_ok.mp hok
    obtain ⟨bs, hbs, -⟩ := Logged.bind_eq_ok.mp hok
    have htail := (Loses.each hbs hrest).andThen hbs fun bs => pure (b :: bs)
    exact (hfirst b hb).bind hb htail

end Loses

end Losing

/-! ## Rendered clauses -/

section Rendering

variable (ops : List Operator) (nested other : Clause → Rendered)

theorem renderComparison_erase {c : Comparison} (h : c.operator ∉ ops) :
    renderComparison (ops.foldl Dialect.erase .standard) other c =
      renderComparison .standard nested c := by
  have hform := Dialect.form_foldl_erase_of_not_mem h Dialect.standard
  cases hstandard : Dialect.standard.form c.operator with
  | error e => rw [renderComparison, renderComparison, hform, hstandard]; rfl
  | ok form =>
    rw [hstandard] at hform
    cases form with
    | token token =>
      rw [renderComparison_token other hform, renderComparison_token nested hstandard]
    | script script =>
      rw [renderComparison_script other hform, renderComparison_script nested hstandard,
        Script.run_eq_of_isFlat other nested _ (Dialect.isFlat_standard hstandard _ _)]

theorem outcome_renderComparison_erase {c : Comparison} (h : c.operator ∈ ops) :
    (renderComparison (ops.foldl Dialect.erase .standard) other c).outcome =
      .error (.unsupportedOperator c.operator) := by
  rw [renderComparison, Dialect.form_foldl_erase_of_mem h]
  rfl

/-- A clause that is rendered loses the operators of its comparisons. -/
theorem loses_renderClause (clause : Clause) : ∀ text,
    (renderClause .standard nested clause).outcome = .ok text →
      Loses ops clause.comparisons (renderClause .standard nested clause)
        (renderClause (ops.foldl Dialect.erase .standard) other clause) := by
  induction clause with
  | comparison c =>
    intro text _
    refine ⟨fun h => ?_, fun before d h => ?_⟩
    · exact renderComparison_erase ops nested other (h c (List.mem_singleton_self c))
    · obtain ⟨-, rfl, hmem⟩ := h.of_singleton
      exact outcome_renderComparison_erase ops other hmem
  | group combinator children ih =>
    intro text htext
    by_cases hne : children = []
    · subst hne
      cases htext
    · rw [renderClause_group nested _ _ hne] at htext ⊢
      obtain ⟨texts, htexts, -⟩ := Logged.bind_eq_ok.mp htext
      rw [renderClause_group other _ _ hne, Clause.comparisons_group]
      exact (Loses.each htexts ih).andThen htexts _
  | literal value => exact fun _ _ => .refl _
  | column c => exact fun _ _ => .refl _
  | compiled p =>
    intro text htext
    cases htext

end Rendering

/-! ## Searches -/

namespace Compiler

variable {columnSql : Column → String} {nesting : Nat} {clauses : List Clause}
  {order : Option Order} {limit offset : UInt64}

/-- The comparisons of clauses that are rendered one after another. -/
theorem loses_renderAll (ops : List Operator) {texts : List String}
    (h : (renderAll ⟨.standard, columnSql, nesting⟩ clauses).outcome = .ok texts) :
    Loses ops (Clause.comparisonsAll clauses) (renderAll ⟨.standard, columnSql, nesting⟩ clauses)
      (renderAll ⟨ops.foldl Dialect.erase .standard, columnSql, nesting⟩ clauses) := by
  obtain ⟨nested, hnested⟩ := render_eq_renderClause ⟨.standard, columnSql, nesting⟩
  obtain ⟨other, hother⟩ :=
    render_eq_renderClause ⟨ops.foldl Dialect.erase .standard, columnSql, nesting⟩
  have heach {body : List Clause} {texts : List String}
      (hbody : (Logged.each (render ⟨.standard, columnSql, nesting⟩) body).outcome = .ok texts) :
      Loses ops (body.flatMap Clause.comparisons)
        (Logged.each (render ⟨.standard, columnSql, nesting⟩) body)
        (Logged.each (render ⟨ops.foldl Dialect.erase .standard, columnSql, nesting⟩) body) := by
    rw [hnested] at hbody ⊢
    rw [hother]
    exact .each hbody fun clause _ => loses_renderClause ops nested other clause
  rw [Clause.comparisonsAll_eq]
  rcases declares_or_not clauses with ⟨name, rest, rfl⟩ | hhead
  · rw [renderAll_declare] at h ⊢
    exact (heach h).note _
  · rw [renderAll_of_not_declare hhead] at h ⊢
    rw [renderAll_of_not_declare hhead]
    exact heach h

theorem loses_renderQuery (ops : List Operator) {text : String}
    (h : (renderQuery ⟨.standard, columnSql, nesting⟩ clauses order limit offset).outcome =
      .ok text) :
    Loses ops (Clause.comparisonsAll clauses)
      (renderQuery ⟨.standard, columnSql, nesting⟩ clauses order limit offset)
      (renderQuery ⟨ops.foldl Dialect.erase .standard, columnSql, nesting⟩ clauses order limit
        offset) := by
  obtain ⟨texts, htexts, -⟩ := Logged.bind_eq_ok.mp h
  exact (loses_renderAll ops htexts).andThen htexts _

/-- A search that compiles in the search engine's syntax compiles to the same predicate without the
operators that none of its comparisons uses. Without an operator that one of them uses it fails, and
names that operator. Of several operators that are erased it names the one of the leftmost
comparison that uses one of them. -/
theorem compile_erase {p : Predicate}
    (h : compile ⟨.standard, columnSql, nesting⟩ clauses order limit offset = .ok p) :
    (∀ op : Operator,
      ((∀ c ∈ Clause.comparisonsAll clauses, c.operator ≠ op) →
        compile ⟨Dialect.standard.erase op, columnSql, nesting⟩ clauses order limit offset =
          .ok p) ∧
      ((∃ c ∈ Clause.comparisonsAll clauses, c.operator = op) →
        compile ⟨Dialect.standard.erase op, columnSql, nesting⟩ clauses order limit offset =
          .error (.unsupportedOperator op))) ∧
    ∀ ops : List Operator,
      ((∀ c ∈ Clause.comparisonsAll clauses, c.operator ∉ ops) →
        compile ⟨ops.foldl Dialect.erase .standard, columnSql, nesting⟩ clauses order limit offset =
          .ok p) ∧
      ∀ before c, First (fun c => c.operator ∈ ops) before c (Clause.comparisonsAll clauses) →
        compile ⟨ops.foldl Dialect.erase .standard, columnSql, nesting⟩ clauses order limit offset =
          .error (.unsupportedOperator c.operator) := by
  obtain ⟨d, hd, -⟩ := compile_eq_ok.mp h
  obtain ⟨htext, -⟩ := draft_eq_ok.mp hd
  have hkept (ops : List Operator)
      (hops : ∀ c ∈ Clause.comparisonsAll clauses, c.operator ∉ ops) :
      compile ⟨ops.foldl Dialect.erase .standard, columnSql, nesting⟩ clauses order limit offset =
        .ok p :=
    (compile_congr ((loses_renderQuery ops htext).kept hops) rfl).trans h
  have hlost (ops : List Operator) (before : List Comparison) (c : Comparison)
      (hfirst : First (fun c => c.operator ∈ ops) before c (Clause.comparisonsAll clauses)) :
      compile ⟨ops.foldl Dialect.erase .standard, columnSql, nesting⟩ clauses order limit offset =
        .error (.unsupportedOperator c.operator) :=
    compile_eq_error.mpr
      (.inl (draft_eq_error.mpr ((loses_renderQuery ops htext).lost before c hfirst)))
  refine ⟨fun op => ⟨fun hop => ?_, fun ⟨c, hc, hop⟩ => ?_⟩, fun ops => ⟨hkept ops, hlost ops⟩⟩
  · exact hkept [op] fun c hc => List.mem_singleton.not.mpr (hop c hc)
  · -- whichever comparison is the leftmost with an operator of this list, it uses this one
    obtain ⟨before, first, hfirst⟩ :=
      First.exists_of_mem (p := fun c => c.operator ∈ [op]) hc (List.mem_singleton.mpr hop)
    have hlost' := hlost [op] before first hfirst
    rwa [List.mem_singleton.mp hfirst.holds] at hlost'

/-- One operator that is not used, and two that are, nested in a group. -/
theorem compile_erase_nested :
    ∃ (clauses : List Clause) (p : Predicate),
      clauses =
        [Column.eq ⟨"products", "author", .search⟩ (.column ⟨"people", "name", .relational⟩),
          .any [.all [Column.gt ⟨"products", "price", .search⟩ (.literal (.integer 5))],
            Column.isIn ⟨"products", "tags", .search⟩ [.string "a", .string "b"]]] ∧
      compile {} clauses none 0 0 = .ok p ∧
      compile ⟨Dialect.standard.erase .like, Column.qualified, 100⟩ clauses none 0 0 = .ok p ∧
      compile ⟨[Operator.isIn, .gt].foldl Dialect.erase .standard, Column.qualified, 100⟩ clauses
        none 0 0 = .error (.unsupportedOperator .gt) := by
  have hcompile : compile {}
      [Column.eq ⟨"products", "author", .search⟩ (.column ⟨"people", "name", .relational⟩),
        .any [.all [Column.gt ⟨"products", "price", .search⟩ (.literal (.integer 5))],
          Column.isIn ⟨"products", "tags", .search⟩ [.string "a", .string "b"]]] none 0 0 =
      .ok ⟨"products", "author:\"%s\" and ((price > 5) or tags:[a,b])",
        ["replace(people.name, '\"', '')"]⟩ := rfl
  obtain ⟨hone, hmany⟩ := compile_erase hcompile
  refine ⟨_, _, rfl, hcompile, (hone .like).1 (by decide), ?_⟩
  exact (hmany [.isIn, .gt]).2 [_] _ ⟨⟨[_], rfl⟩, by decide, by decide⟩

end Compiler

end HybridQuery
