import HybridQuery.Proofs.Tests
import HybridQuery.Proofs.Tree
import HybridQuery.Relational.Statement

/-!
# The values of conditions

The values that a condition binds are those of the literals of its clause, null left out, in the
order in which they stand in the clause (`Clause.binds_condition`). Only in the place of an empty
list two values are bound that no literal has.
-/

namespace HybridQuery

/-! ## Values of statements -/

theorem Condition.values_wrap (wrapped : Bool) (s : Statement) :
    (wrap wrapped s).values = s.values := by
  cases wrapped <;> simp [wrap, Statement.values]

theorem Condition.values_foldl (combinator : Combinator) :
    ∀ (conditions : List Condition) (first : Condition),
      (conditions.foldl (.join combinator) first).statement.values =
        first.statement.values ++ conditions.flatMap fun c => c.statement.values
  | [], first => by simp
  | next :: rest, first => by
    rw [List.foldl_cons, values_foldl combinator rest, statement, Statement.values_append,
      values_wrap, Statement.values, values_wrap, List.flatMap_cons, List.append_assoc]

/-- Joined conditions have their values one after another. -/
theorem Condition.values_joinAll (combinator : Combinator) (conditions : List Condition) :
    (joinAll combinator conditions).statement.values =
      conditions.flatMap fun c => c.statement.values := by
  cases conditions with
  | nil => cases combinator <;> rfl
  | cons first rest => exact values_foldl combinator rest first

theorem Statement.values_separated (separator : String) : ∀ statements : List Statement,
    (Statement.separated separator statements).values = statements.flatMap Statement.values
  | [] => rfl
  | [s] => (List.append_nil _).symm
  | s :: t :: rest => by
    have ih := values_separated separator (t :: rest)
    have hseparated : separated separator (s :: t :: rest) =
        s ++ .text separator :: separated separator (t :: rest) := rfl
    rw [hseparated, values_append, values, ih]
    rfl

/-! ## Values of clauses -/

/-- The literals of an operand, from left to right. -/
def Operand.literals : Operand → List Literal
  | .literal value => [value]
  | .column _ => []
  | .list values => values

/-- The literals that are not null. -/
def Literal.present (literals : List Literal) : List Literal :=
  literals.filter fun l => l.kind ≠ .null

/-- The literals of a clause other than null, from left to right and at any depth. -/
def Clause.literals (clause : Clause) : List Literal :=
  clause.comparisons.flatMap fun c => Literal.present c.operand.literals

/-- The comparison asks for one of no values. -/
def Comparison.IsVacuous (c : Comparison) : Prop :=
  c.operator = .isIn ∧ c.operand = .list []

namespace Literal

/-- Null is not bound. -/
theorem Bind.present {literals : List Literal} {values : List Value}
    (h : Bind literals values) : Bind (present literals) values := by
  induction h with
  | nil => exact .nil
  | @cons l v literals values hl _ ih =>
    have hkind : l.kind ≠ .null := by
      cases l with
      | null => cases hl
      | _ => simp [kind]
    have hpresent : Literal.present (l :: literals) = l :: Literal.present literals :=
      List.filter_cons_of_pos (by simpa using hkind)
    rw [hpresent]
    exact .cons hl ih

theorem Bind.append {literals others : List Literal} {values values' : List Value}
    (h : Bind literals values) (h' : Bind others values') :
    Bind (literals ++ others) (values ++ values') :=
  List.rel_append h h'

end Literal

theorem Operand.Denotes.binds {operand : Operand} {term : Term} (h : operand.Denotes term) :
    Literal.Bind operand.literals term.statement.values := by
  cases h with
  | literal hvalue => exact .cons hvalue .nil
  | column c => exact .nil

theorem Test.values_isIn (c : Column) {values : List Value} (h : values ≠ []) :
    (Test.isIn c values).statement.values = values := by
  cases values with
  | nil => exact absurd rfl h
  | cons first rest =>
    simp only [statement, List.cons_append, Statement.values, Statement.values_append,
      Statement.values_separated, List.append_nil, List.flatMap_map]
    exact List.flatMap_singleton' _

/-- A test binds the literals of its comparison. -/
theorem Comparison.binds_test {c : Comparison} {test : Test} (h : c.test = .ok test)
    (hvacuous : ¬c.IsVacuous) :
    Literal.Bind (Literal.present c.operand.literals) test.statement.values := by
  cases tests_of_test h with
  | isNull column | isNotNull column => exact .nil
  | compare column hcomparator hterm => exact hterm.binds.present
  | like column pattern => exact .cons (.string pattern) .nil
  | between column hlow hhigh => exact Literal.Bind.present (.cons hlow (.cons hhigh .nil))
  | isIn column hvalues =>
    cases hvalues with
    | nil => exact absurd ⟨rfl, rfl⟩ hvacuous
    | cons hfirst hrest =>
      rw [Test.values_isIn column (List.cons_ne_nil _ _)]
      exact Literal.Bind.present (.cons hfirst hrest)

namespace Clause

theorem binds_conditions_of_forall₂ {clauses : List Clause} {conditions : List Condition}
    (h : List.Forall₂ (fun a c => Literal.Bind a.literals c.statement.values) clauses conditions) :
    Literal.Bind (clauses.flatMap literals) (conditions.flatMap fun c => c.statement.values) := by
  induction h with
  | nil => exact .nil
  | cons hfirst _ ih => exact hfirst.append ih

theorem literals_group (combinator : Combinator) (children : List Clause) :
    literals (.group combinator children) = children.flatMap literals := by
  simp only [literals, comparisons_group, List.flatMap_assoc]
  rfl

/-- A condition binds the literals of its clause in their order, if each list has a value. -/
theorem binds_condition (a : Clause) : ∀ c, a.condition = .ok c →
    (∀ x ∈ a.comparisons, ¬x.IsVacuous) → Literal.Bind a.literals c.statement.values := by
  induction a with
  | comparison x =>
    intro c h hvacuous
    obtain ⟨test, htest, rfl⟩ := condition_comparison_eq_ok.mp h
    have hliterals : literals (.comparison x) = Literal.present x.operand.literals := by
      simp [literals]
    rw [hliterals]
    exact Comparison.binds_test htest (hvacuous x (by simp))
  | group combinator children ih =>
    intro c h hvacuous
    obtain ⟨cs, hcs, rfl⟩ := condition_group_eq_ok.mp h
    rw [comparisons_group, List.forall_mem_flatMap] at hvacuous
    rw [Condition.values_joinAll, literals_group]
    exact binds_conditions_of_forall₂
      (forall₂_imp_of_mem hcs fun a ha c hc => ih a ha c hc (hvacuous a ha))
  | literal | column | compiled =>
    intro c h
    cases h

end Clause

end HybridQuery
