import HybridQuery.Proofs.Course
import HybridQuery.Proofs.Failures
import HybridQuery.Proofs.Tests

/-!
# What can be a condition

The relational engine has a test for some comparisons and not for others. Which ones is said here by
operator and operand (`Operand.Suits`), without building the test: a single value has to be one that
can be bound to a parameter (`Literal.IsBindable`), some operators take null, others a string or a
list, and full-text match takes nothing.

A clause is a condition exactly if each node in it is a group or a comparison of this kind
(`Clause.IsTestable`), and otherwise its error is that of the leftmost node that is not
(`Clause.condition_outcome`).
-/

namespace HybridQuery

/-! ## Values and operands -/

/-- A literal that can be bound to a parameter. -/
def Literal.IsBindable : Literal → Prop
  | .string _ => True
  | .phrase _ => True
  | .integer _ => True
  | .float _ => True
  | .boolean _ => True
  | .dateTime t => t.HasRoom
  | _ => False

namespace Operand

/-- A single value or a column. -/
def IsTerm : Operand → Prop
  | .literal value => value.IsBindable
  | .column _ => True
  | .list _ => False

/-- An operand that the relational engine can test a column against with the operator. -/
def Suits (operand : Operand) : Operator → Prop
  | .eq => operand = .literal .null ∨ operand.IsTerm
  | .ne => operand = .literal .null ∨ operand.IsTerm
  | .isNot => operand = .literal .null ∨ operand.IsTerm
  | .gt => operand.IsTerm
  | .gte => operand.IsTerm
  | .lt => operand.IsTerm
  | .lte => operand.IsTerm
  | .like => ∃ pattern, operand = .literal (.string pattern)
  | .between => ∃ low high, operand = .list [low, high] ∧ low.IsBindable ∧ high.IsBindable
  | .isIn => ∃ values, operand = .list values ∧ ∀ value ∈ values, value.IsBindable
  | .matches => False

end Operand

theorem Literal.isOk_value_iff {value : Literal} :
    (∃ v, value.value = .ok v) ↔ value.IsBindable := by
  cases value with
  | dateTime t =>
    have htext : (∃ text, t.text = .ok text) ↔ ∃ text, t.rfc3339 = .ok text := by
      unfold DateTime.text
      cases t.rfc3339 <;> simp
    rw [IsBindable, ← DateTime.isOk_rfc3339_iff, ← htext, Literal.value]
    simp [map_eq_ok]
  | string _ | integer _ | float _ | boolean _ | null | pattern _ | raw _ | phrase _ | table _ =>
    simp [Literal.value, IsBindable]

theorem Literal.isBindable_of_boundAs {l : Literal} {v : Value} (h : l.BoundAs v) :
    l.IsBindable :=
  isOk_value_iff.mp ⟨v, h.value⟩

theorem Operand.isOk_term_iff {operand : Operand} :
    (∃ t, operand.term = .ok t) ↔ operand.IsTerm := by
  cases operand with
  | literal value =>
    rw [IsTerm, ← Literal.isOk_value_iff, term]
    simp [map_eq_ok]
  | column c => simp [term, IsTerm]
  | list values => simp [term, IsTerm]

/-! ## Comparisons -/

namespace Comparison

variable {column : Column} {operator : Operator} {operand : Operand}

/-- The test that a comparison becomes says what its operand is. -/
theorem suits_of_tests {test : Test} (h : Tests ⟨column, operator, operand⟩ test) :
    operand.Suits operator := by
  cases h with
  | isNull => exact .inl rfl
  | isNotNull _ hoperator =>
    rcases hoperator with rfl | rfl
    · exact .inl rfl
    · exact .inl rfl
  | compare _ hcomparator hterm =>
    have hisTerm := Operand.isOk_term_iff.mp ⟨_, Operand.term_eq_ok_iff.mpr hterm⟩
    cases operator with
    | eq | ne | isNot => exact .inr hisTerm
    | gt | gte | lt | lte => exact hisTerm
    | like | between | isIn | «matches» => cases hcomparator
  | like _ pattern => exact ⟨pattern, rfl⟩
  | between _ hlow hhigh =>
    exact ⟨_, _, rfl, Literal.isBindable_of_boundAs hlow, Literal.isBindable_of_boundAs hhigh⟩
  | isIn _ hvalues =>
    exact ⟨_, rfl, forall_mem_of_forall₂ hvalues fun _ _ => Literal.isBindable_of_boundAs⟩

theorem isOk_against (h : operand.IsTerm) (comparator : Comparator) :
    ∃ test, against ⟨column, operator, operand⟩ comparator = .ok test := by
  obtain ⟨t, ht⟩ := Operand.isOk_term_iff.mpr h
  exact ⟨_, map_eq_ok.mpr ⟨t, ht, rfl⟩⟩

/-- Null has a test of its own, and everything else has one as a term. -/
theorem isOk_nullable (h : operand = .literal .null ∨ operand.IsTerm) (comparator : Comparator)
    (nullTest : Test) : ∃ test, (if operand.isNull then .ok nullTest
      else against ⟨column, operator, operand⟩ comparator) = .ok test := by
  rcases h with rfl | hterm
  · exact ⟨nullTest, rfl⟩
  · split_ifs
    · exact ⟨nullTest, rfl⟩
    · exact isOk_against hterm comparator

/-- A comparison has a test exactly if the operand suits the operator. -/
theorem isOk_test_iff {c : Comparison} :
    (∃ test, c.test = .ok test) ↔ c.operand.Suits c.operator := by
  obtain ⟨column, operator, operand⟩ := c
  constructor
  · rintro ⟨test, htest⟩
    exact suits_of_tests (tests_of_test htest)
  · intro h
    cases operator with
    | eq | ne | isNot => exact isOk_nullable h _ _
    | gt | gte | lt | lte => exact isOk_against h _
    | like =>
      obtain ⟨pattern, rfl⟩ := h
      exact ⟨_, rfl⟩
    | between =>
      obtain ⟨low, high, rfl, hlow, hhigh⟩ := h
      obtain ⟨l, hl⟩ := Literal.isOk_value_iff.mpr hlow
      obtain ⟨r, hr⟩ := Literal.isOk_value_iff.mpr hhigh
      exact ⟨_, bind_eq_ok.mpr ⟨l, hl, bind_eq_ok.mpr ⟨r, hr, rfl⟩⟩⟩
    | isIn =>
      obtain ⟨values, rfl, hvalues⟩ := h
      obtain ⟨vs, hvs⟩ := isOk_mapM fun v hv => Literal.isOk_value_iff.mpr (hvalues v hv)
      exact ⟨_, map_eq_ok.mpr ⟨vs, hvs, rfl⟩⟩
    | «matches» => exact h.elim

end Comparison

/-! ## Clauses -/

namespace Clause

/-- A node that the relational engine has a form for, whatever its children are. -/
def IsTestable : Clause → Prop
  | .comparison c => c.operand.Suits c.operator
  | .group _ _ => True
  | _ => False

/-- How a node that has no form is refused. -/
def IsRefused : Clause → Error → Prop
  | .comparison c, e =>
    (c.operator = .matches ∧ e = .unsupportedOperator .matches) ∨
      (c.operator ≠ .matches ∧ ∃ fault, e = .invalidParameter fault)
  | .group _ _, _ => False
  | node, e => e = .unsupportedClause (.notACondition node.kind)

/-- The error of a comparison that has no test. -/
theorem isRefused_comparison {c : Comparison} {e : Error} (h : c.test = .error e) :
    IsRefused (.comparison c) e := by
  by_cases hoperator : c.operator = .matches
  · rw [Comparison.test, hoperator] at h
    exact .inl ⟨hoperator, (Except.error.inj h).symm⟩
  · exact .inr ⟨hoperator, Comparison.onlyFails_test_of_ne hoperator e h⟩

/-- The course of giving each node its form. Nothing is noted on the way. -/
def testing : Course Clause Unit where
  blocks node e := node.condition = .error e ∧ node.IsRefused e
  note? _ := none

/-- The obstacles are the nodes that are not testable. -/
theorem isObstacle_testing : testing.IsObstacle = fun node => ¬node.IsTestable := by
  funext node
  refine propext ?_
  cases node with
  | comparison c =>
    constructor
    · rintro ⟨e, he, -⟩ hsuits
      obtain ⟨test, htest⟩ := Comparison.isOk_test_iff.mpr hsuits
      rw [condition_comparison_eq_ok.mpr ⟨test, htest, rfl⟩] at he
      cases he
    · intro hnot
      cases htest : c.test with
      | ok test => exact absurd (Comparison.isOk_test_iff.mp ⟨test, htest⟩) hnot
      | error e => exact ⟨e, by rw [condition, htest]; rfl, isRefused_comparison htest⟩
  | group combinator children =>
    constructor
    · rintro ⟨e, -, hrefused⟩
      exact hrefused.elim
    · exact fun hnot => absurd trivial hnot
  | literal _ | column _ | compiled _ => exact ⟨fun _ => id, fun _ => ⟨_, rfl, rfl⟩⟩

/-- A node that stands for itself has a value, or is refused. -/
theorem runs_leaf {clause : Clause} (h : clause.IsTestable → ∃ c, clause.condition = .ok c) :
    testing.Runs [clause] (.lift clause.condition) := by
  by_cases hobstacle : testing.IsObstacle clause
  · obtain ⟨e, hblocks⟩ := hobstacle
    rw [hblocks.1]
    exact .fail hblocks []
  · have htestable : clause.IsTestable := by
      rw [isObstacle_testing] at hobstacle
      exact not_not.mp hobstacle
    obtain ⟨c, hc⟩ := h htestable
    rw [hc]
    exact .skip hobstacle rfl c

/-- Clauses one after another are gone through node by node. -/
theorem runs_conditions_of_forall {clauses : List Clause}
    (h : ∀ c ∈ clauses, testing.Runs c.nodes (.lift c.condition)) :
    testing.Runs (clauses.flatMap nodes) (.lift (conditions clauses)) := by
  induction clauses with
  | nil => exact .pure []
  | cons first rest ih =>
    obtain ⟨hfirst, hrest⟩ := List.forall_mem_cons.mp h
    rw [List.flatMap_cons, conditions, Logged.lift_bind]
    refine hfirst.bind fun c _ => ?_
    rw [Logged.lift_bind]
    exact (ih hrest).map (c :: ·)

theorem runs_condition (clause : Clause) : testing.Runs clause.nodes (.lift clause.condition) := by
  induction clause with
  | comparison c =>
    refine runs_leaf fun hsuits => ?_
    obtain ⟨test, htest⟩ := Comparison.isOk_test_iff.mpr hsuits
    exact ⟨_, condition_comparison_eq_ok.mpr ⟨test, htest, rfl⟩⟩
  | group combinator children ih =>
    -- the group itself is testable, so it is passed by
    have hpassed : ¬testing.IsObstacle (.group combinator children) := by
      rw [isObstacle_testing]
      exact not_not.mpr trivial
    have hchildren := (runs_conditions_of_forall ih).map (Condition.joinAll combinator)
    rw [nodes_group, condition, Logged.lift_map]
    exact (Course.Runs.skip hpassed rfl ()).bind fun _ _ => hchildren
  | literal _ | column _ | compiled _ => exact runs_leaf False.elim

/-- A clause is a condition exactly if all nodes in it are testable. Otherwise it fails with the
error of the first node that is not: a clause of another kind is no condition, full-text match is no
operator of the relational engine, and with every other operator the operand is an invalid
parameter. -/
theorem condition_outcome (clause : Clause) :
    ((∃ c, clause.condition = .ok c) ↔ ∀ node ∈ clause.nodes, node.IsTestable) ∧
      ∀ before node, First (fun node => ¬node.IsTestable) before node clause.nodes →
        ∃ e, clause.condition = .error e ∧ node.condition = .error e ∧ node.IsRefused e := by
  have hruns := runs_condition clause
  constructor
  · have hok := hruns.isOk_iff
    simpa only [isObstacle_testing, not_not, Logged.outcome_lift] using hok
  · intro before node hfirst
    rw [← isObstacle_testing] at hfirst
    obtain ⟨e, hblocks, houtcome, -⟩ := hruns.error before node hfirst
    exact ⟨e, houtcome, hblocks⟩

/-- A choice between an empty list and a range is a condition. After it comes a comparison that has
only one bound, and only then a full-text match. -/
theorem condition_outcome_bounds :
    ∃ choice bound search : Clause,
      choice = .any [Column.isIn ⟨"products", "name", .relational⟩ [],
        .all [Column.between ⟨"products", "stock", .relational⟩ (.integer 1) (.phrase "9")]] ∧
      bound = Column.compare ⟨"products", "stock", .relational⟩ .between (.list [.integer 1]) ∧
      search = Column.isMatch ⟨"products", "name", .relational⟩ (.literal (.string "tea")) ∧
      (∃ c, choice.condition = .ok c) ∧
      First (fun node => ¬node.IsTestable) (.all [choice, bound, search] :: choice.nodes) bound
        (nodes (.all [choice, bound, search])) ∧
      ∃ e, condition (.all [choice, bound, search]) = .error e ∧ bound.condition = .error e ∧
        bound.IsRefused e := by
  refine ⟨_, _, _, rfl, rfl, rfl, ?_⟩
  have hchoice : ∀ node ∈ nodes (.any [Column.isIn ⟨"products", "name", .relational⟩ [],
      .all [Column.between ⟨"products", "stock", .relational⟩ (.integer 1) (.phrase "9")]]),
      node.IsTestable := by
    simp [any, all, nodes, nodesAll, Column.isIn, Column.between, Column.compare, IsTestable,
      Operand.Suits, Literal.IsBindable]
  refine ⟨(condition_outcome _).1.mpr hchoice, ?_⟩
  suffices hfirst : First _ _ _ _ from ⟨hfirst, (condition_outcome _).2 _ _ hfirst⟩
  refine ⟨⟨_, rfl⟩, List.forall_mem_cons.mpr ⟨not_not.mpr trivial, ?_⟩, ?_⟩
  · exact fun node hnode => not_not.mpr (hchoice node hnode)
  · simp [Column.compare, IsTestable, Operand.Suits]

end Clause

end HybridQuery
