import HybridQuery.Proofs.SqlConditions
import HybridQuery.Proofs.Tests

/-!
# Conditions mean what clauses say

What the relational engine tests for a comparison is told by its operator and its operand
(`Comparison.Means`): null has tests of its own, nothing is in an empty list, and every other
operator is the one of that name in SQL, with the value of a literal or another column on its right.

The condition of a clause is read back from its SQL as a formula with the tests of the comparisons
from left to right, which is as true as the clause, whatever the tests yield
(`Clause.read_condition`). So the parentheses that are left out change nothing, and neither do
groups of one clause that disappear.
-/

namespace HybridQuery

open Sql

/-! ## Comparisons -/

namespace Comparison

/-- What a comparison asks of SQL. -/
inductive Means : Comparison → Leaf → Prop
  | isNull (column : Column) : Means ⟨column, .eq, .literal .null⟩ (.isNull (.ofColumn column))
  | isNotNull (column : Column) {operator : Operator} (h : operator = .ne ∨ operator = .isNot) :
    Means ⟨column, operator, .literal .null⟩ (.isNotNull (.ofColumn column))
  /-- A literal stands for its value. -/
  | compareValue (column : Column) {operator : Operator} {comparator : Comparator} {l : Literal}
    {v : Value} (hcomparator : operator.comparator? = some comparator) (hvalue : l.BoundAs v) :
    Means ⟨column, operator, .literal l⟩ (.compare (.ofColumn column) comparator (.value v))
  /-- A column stands for itself. -/
  | compareColumn (column other : Column) {operator : Operator} {comparator : Comparator}
    (hcomparator : operator.comparator? = some comparator) :
    Means ⟨column, operator, .column other⟩
      (.compare (.ofColumn column) comparator (.ofColumn other))
  | like (column : Column) (pattern : String) :
    Means ⟨column, .like, .literal (.string pattern)⟩
      (.like (.ofColumn column) (.value (.string pattern)))
  | between (column : Column) {low high : Literal} {l h : Value} (hlow : low.BoundAs l)
    (hhigh : high.BoundAs h) :
    Means ⟨column, .between, .list [low, high]⟩
      (.between (.ofColumn column) (.value l) (.value h))
  | isIn (column : Column) {literals : List Literal} {values : List Value} (hne : literals ≠ [])
    (hvalues : Literal.Bind literals values) :
    Means ⟨column, .isIn, .list literals⟩ (.isIn (.ofColumn column) (values.map .value))
  /-- Nothing is in an empty list. -/
  | isInNothing (column : Column) {leaf : Leaf} (h : ∀ tests, leaf.truth tests = .no) :
    Means ⟨column, .isIn, .list []⟩ leaf

/-- The test of a comparison in SQL. Only where there is none it tells nothing. -/
def leaf (c : Comparison) : Leaf :=
  match c.test with
  | .ok test => test.leaf
  | .error _ => .isNull (.ofColumn c.column)

theorem leaf_of_test {c : Comparison} {test : Test} (h : c.test = .ok test) :
    c.leaf = test.leaf := by
  rw [leaf, h]

/-- The test of a comparison is what the comparison means. -/
theorem means_of_test {c : Comparison} {test : Test} (h : c.test = .ok test) :
    c.Means test.leaf := by
  cases tests_of_test h with
  | isNull column => exact .isNull column
  | isNotNull column hoperator => exact .isNotNull column hoperator
  | compare column hcomparator hterm =>
    cases hterm with
    | literal hvalue => exact .compareValue column hcomparator hvalue
    | column other => exact .compareColumn column other hcomparator
  | like column pattern => exact .like column pattern
  | between column hlow hhigh => exact .between column hlow hhigh
  | isIn column hvalues =>
    cases hvalues with
    | nil => exact .isInNothing column fun _ => rfl
    | cons hfirst hrest => exact .isIn column (List.cons_ne_nil _ _) (.cons hfirst hrest)

end Comparison

/-! ## Clauses -/

namespace Clause

/-- The formula has the tests of a clause, and is as true as the clause. -/
structure Agrees (clause : Clause) (f : Formula) : Prop where
  means : ∀ c ∈ clause.comparisons, c.Means c.leaf
  leaves : f.leaves = clause.comparisons.map Comparison.leaf
  truth : ∀ tests, f.truth tests = clause.truth fun c => c.leaf.truth tests

theorem truth_group (test : Comparison → Truth) (combinator : Combinator)
    (children : List Clause) : truth test (.group combinator children) = children.foldr
      (fun clause t => combinator.truth (truth test clause) t) combinator.neutral := by
  cases combinator with
  | and =>
    rw [truth]
    induction children with
    | nil => rfl
    | cons first rest ih => rw [allTrue, ih, List.foldr_cons]; rfl
  | or =>
    rw [truth]
    induction children with
    | nil => rfl
    | cons first rest ih => rw [someTrue, ih, List.foldr_cons]; rfl

/-- Formulas that agree with the children agree with the group when they are joined. -/
theorem Agrees.group (combinator : Combinator) {children : List Clause} {formulas : List Formula}
    (h : List.Forall₂ Agrees children formulas) :
    Agrees (.group combinator children) (Formula.joinAll combinator formulas) where
  means := by
    simp only [comparisons_group, List.forall_mem_flatMap]
    exact forall_mem_of_forall₂ h fun _ _ hagrees => hagrees.means
  leaves := by
    rw [Formula.leaves_joinAll, comparisons_group]
    induction h with
    | nil => rfl
    | cons hfirst _ ih =>
      rw [List.flatMap_cons, List.flatMap_cons, List.map_append, hfirst.leaves, ih]
  truth tests := by
    rw [Formula.truth_joinAll, truth_group]
    induction h with
    | nil => rfl
    | cons hfirst _ ih => rw [List.foldr_cons, List.foldr_cons, hfirst.truth, ih]

/-- What holds of each of some conditions, holds of all of them. -/
theorem exists_agrees_of_forall₂ {clauses : List Clause} {cs : List Condition}
    (h : List.Forall₂ (fun clause c => ∃ f, Condition.Denotes c f ∧ Agrees clause f) clauses cs) :
    ∃ formulas, List.Forall₂ Condition.Denotes cs formulas ∧
      List.Forall₂ Agrees clauses formulas := by
  induction h with
  | nil => exact ⟨[], .nil, .nil⟩
  | cons hfirst _ ih =>
    obtain ⟨f, hdenotes, hagrees⟩ := hfirst
    obtain ⟨formulas, hdenotesAll, hagreesAll⟩ := ih
    exact ⟨f :: formulas, .cons hdenotes hdenotesAll, .cons hagrees hagreesAll⟩

/-- The condition of a clause has the structure of a formula that agrees with the clause. -/
theorem exists_agrees_of_condition (clause : Clause) : ∀ c, clause.condition = .ok c →
    ∃ f, c.Denotes f ∧ clause.Agrees f := by
  induction clause with
  | comparison comparison =>
    intro c h
    obtain ⟨test, htest, rfl⟩ := condition_comparison_eq_ok.mp h
    have hleaf := Comparison.leaf_of_test htest
    refine ⟨.leaf test.leaf, .test test, ?_, ?_, ?_⟩
    · simpa [hleaf] using Comparison.means_of_test htest
    · simp [Formula.leaves, hleaf]
    · simp [Formula.truth, Clause.truth, hleaf]
  | group combinator children ih =>
    intro c h
    obtain ⟨cs, hcs, rfl⟩ := condition_group_eq_ok.mp h
    obtain ⟨formulas, hdenotes, hagrees⟩ := exists_agrees_of_forall₂ (forall₂_imp_of_mem hcs ih)
    exact ⟨_, .joinAll combinator hdenotes, .group combinator hagrees⟩
  | literal | column | compiled =>
    intro c h
    cases h

/-- The SQL of the condition of a clause is read back as a formula with the tests of the clause's
comparisons from left to right, each of them what the comparison means, and the formula is as true
as the clause, whatever the tests yield. -/
theorem read_condition {clause : Clause} {c : Condition} (h : clause.condition = .ok c) :
    ∃ f : Formula, Formula.read c.statement.values c.statement.sql = some f ∧
      (∀ comparison ∈ clause.comparisons, comparison.Means comparison.leaf) ∧
      f.leaves = clause.comparisons.map Comparison.leaf ∧
      ∀ tests, f.truth tests = clause.truth fun comparison => comparison.leaf.truth tests := by
  obtain ⟨f, hdenotes, hagrees⟩ := exists_agrees_of_condition clause c h
  exact ⟨f, hdenotes.read, hagrees.means, hagrees.leaves, hagrees.truth⟩

/-- A group of one comparison, a range and a comparison of two columns in a conjunction, beside an
empty list. -/
theorem read_condition_nested :
    let price : Column := ⟨"products", "price", .relational⟩
    let cost : Column := ⟨"products", "cost", .relational⟩
    let clause : Clause := .any [.all [.any [price.gt (.literal (.integer 5))],
      price.between (.integer 1) (.integer 9), price.isNot (.column cost)], price.isIn []]
    let above : Test := .compare price .gt (.value (.integer 5))
    let range : Test := .between price (.integer 1) (.integer 9)
    let other : Test := .compare price .distinct (.column cost)
    let c : Condition := .join .or
      (.join .and (.join .and (.test above) (.test range)) (.test other)) (.test (.isIn price []))
    clause.condition = .ok c ∧
      c.statement.sql = "(\"products\".\"price\" > $1 AND " ++
        "(\"products\".\"price\" BETWEEN $2 AND $3) AND " ++
        "(\"products\".\"price\" IS DISTINCT FROM \"products\".\"cost\")) OR $4 = $5" ∧
      ∃ f : Formula, Formula.read c.statement.values c.statement.sql = some f ∧
        f.leaves = [.compare (.ofColumn price) .gt (.value (.integer 5)),
          .between (.ofColumn price) (.value (.integer 1)) (.value (.integer 9)),
          .compare (.ofColumn price) .distinct (.ofColumn cost), (Test.isIn price []).leaf] ∧
        (Comparison.mk price .isNot (.column cost)).Means
          (.compare (.ofColumn price) .distinct (.ofColumn cost)) ∧
        ∀ tests, f.truth tests =
          ((tests above.leaf).and (tests range.leaf)).and (tests other.leaf) := by
  intro price cost clause above range other c
  have hcondition : clause.condition = .ok c := rfl
  obtain ⟨f, hread, hmeans, hleaves, htruth⟩ := read_condition hcondition
  have hother : (⟨price, .isNot, .column cost⟩ : Comparison) ∈ clause.comparisons := by
    simp [clause, any, all, Column.gt, Column.between, Column.isNot, Column.compare]
  refine ⟨hcondition, by cbv, f, hread, hleaves, hmeans _ hother, fun tests => ?_⟩
  refine (htruth tests).trans ?_
  change (((tests above.leaf).or .no).and ((tests range.leaf).and
    ((tests other.leaf).and .yes))).or (.or .no .no) = _
  cases tests above.leaf <;> cases tests range.leaf <;> cases tests other.leaf <;> rfl

end Clause

end HybridQuery
