import HybridQuery.Proofs.Logged
import HybridQuery.Relational.ClauseCondition

/-!
# What clauses become

`Literal.BoundAs` tells for each kind of literal the value that it is bound as, and
`Operand.Denotes` what a column is compared with: the value of a literal, or another column. A
literal has this value and no other (`Literal.value_eq_ok_iff`), and an operand is this term
(`Operand.term_eq_ok_iff`).

`Comparison.Tests` tells every test that a comparison can become, with what has to hold of its
operand (`Comparison.tests_of_test`). A clause that has a condition is a comparison that has a
test, or a group of clauses that have conditions (`Clause.condition_comparison_eq_ok`,
`Clause.condition_group_eq_ok`).
-/

namespace HybridQuery

/-- The comparator of SQL that an operator stands for. -/
def Operator.comparator? : Operator → Option Comparator
  | .eq => some .eq
  | .ne => some .ne
  | .gt => some .gt
  | .gte => some .gte
  | .lt => some .lt
  | .lte => some .lte
  | .isNot => some .distinct
  | _ => none

/-! ## Values -/

namespace Literal

/-- The value that a literal is bound as: what it says, with the text of a phrase as a string, and a
date as a string in the internet format. -/
inductive BoundAs : Literal → Value → Prop
  | string (text : String) : BoundAs (.string text) (.string text)
  | phrase (text : String) : BoundAs (.phrase text) (.string text)
  | integer (n : Int64) : BoundAs (.integer n) (.integer n)
  | float (x : Binary64) : BoundAs (.float x) (.float x)
  | boolean (b : Bool) : BoundAs (.boolean b) (.boolean b)
  | dateTime {t : DateTime} {text : String} (h : t.rfc3339 = .ok text) :
    BoundAs (.dateTime t) (.string text)

theorem boundAs_of_value {l : Literal} {v : Value} (h : l.value = .ok v) : l.BoundAs v := by
  cases l with
  | string text => cases h; exact .string text
  | phrase text => cases h; exact .phrase text
  | integer n => cases h; exact .integer n
  | float x => cases h; exact .float x
  | boolean b => cases h; exact .boolean b
  | dateTime t =>
    obtain ⟨text, htext, rfl⟩ := map_eq_ok.mp h
    unfold DateTime.text at htext
    split at htext
    case h_1 written hwritten =>
      cases htext
      exact .dateTime hwritten
    case h_2 => cases htext
  | null | pattern _ | raw _ | table _ => cases h

theorem BoundAs.value {l : Literal} {v : Value} (h : l.BoundAs v) : l.value = .ok v := by
  cases h with
  | dateTime h =>
    rw [Literal.value, DateTime.text, h]
    rfl
  | string _ | phrase _ | integer _ | float _ | boolean _ => rfl

theorem value_eq_ok_iff {l : Literal} {v : Value} : l.value = .ok v ↔ l.BoundAs v :=
  ⟨boundAs_of_value, BoundAs.value⟩

/-- These are the values that the literals are bound as, one for each. -/
def Bind (literals : List Literal) (values : List Value) : Prop :=
  List.Forall₂ BoundAs literals values

end Literal

/-- What a column is compared with: the value of a literal, or another column. -/
inductive Operand.Denotes : Operand → Term → Prop
  | literal {l : Literal} {v : Value} (h : l.BoundAs v) : Denotes (.literal l) (.value v)
  | column (c : Column) : Denotes (.column c) (.column c)

theorem Operand.term_eq_ok_iff {operand : Operand} {term : Term} :
    operand.term = .ok term ↔ operand.Denotes term := by
  constructor
  · intro h
    cases operand with
    | literal l =>
      obtain ⟨v, hv, rfl⟩ := map_eq_ok.mp h
      exact .literal (Literal.value_eq_ok_iff.mp hv)
    | column c =>
      cases h
      exact .column c
    | list values => cases h
  · intro h
    cases h with
    | literal h => exact map_eq_ok.mpr ⟨_, h.value, rfl⟩
    | column c => rfl

/-! ## Tests -/

namespace Comparison

/-- The test that a comparison becomes. -/
inductive Tests : Comparison → Test → Prop
  | isNull (column : Column) : Tests ⟨column, .eq, .literal .null⟩ (.isNull column)
  | isNotNull (column : Column) {operator : Operator} (h : operator = .ne ∨ operator = .isNot) :
    Tests ⟨column, operator, .literal .null⟩ (.isNotNull column)
  | compare (column : Column) {operator : Operator} {comparator : Comparator} {operand : Operand}
    {term : Term} (hcomparator : operator.comparator? = some comparator)
    (hterm : operand.Denotes term) :
    Tests ⟨column, operator, operand⟩ (.compare column comparator term)
  | like (column : Column) (pattern : String) :
    Tests ⟨column, .like, .literal (.string pattern)⟩ (.like column pattern)
  | between (column : Column) {low high : Literal} {l h : Value} (hlow : low.BoundAs l)
    (hhigh : high.BoundAs h) :
    Tests ⟨column, .between, .list [low, high]⟩ (.between column l h)
  | isIn (column : Column) {literals : List Literal} {values : List Value}
    (h : Literal.Bind literals values) : Tests ⟨column, .isIn, .list literals⟩ (.isIn column values)

variable {column : Column} {operator : Operator} {operand : Operand} {test : Test}

theorem tests_of_against {comparator : Comparator}
    (hcomparator : operator.comparator? = some comparator)
    (h : against ⟨column, operator, operand⟩ comparator = .ok test) :
    Tests ⟨column, operator, operand⟩ test := by
  obtain ⟨term, hterm, rfl⟩ := map_eq_ok.mp h
  exact .compare column hcomparator (Operand.term_eq_ok_iff.mp hterm)

/-- Null is tested for in its own way, everything else is compared with. -/
theorem tests_of_nullable {comparator : Comparator} {nullTest : Test}
    (hcomparator : operator.comparator? = some comparator)
    (h : (if operand.isNull then .ok nullTest else against ⟨column, operator, operand⟩ comparator) =
      .ok test) (hnull : Tests ⟨column, operator, .literal .null⟩ nullTest) :
    Tests ⟨column, operator, operand⟩ test := by
  split at h
  case isTrue hoperand =>
    unfold Operand.isNull at hoperand
    split at hoperand
    case h_1 =>
      cases h
      exact hnull
    case h_2 => cases hoperand
  case isFalse => exact tests_of_against hcomparator h

theorem tests_of_likeTest (h : likeTest ⟨column, .like, operand⟩ = .ok test) :
    Tests ⟨column, .like, operand⟩ test := by
  unfold likeTest at h
  split at h
  case h_1 pattern hoperand =>
    cases h
    cases hoperand
    exact .like column pattern
  case h_2 => cases h

theorem tests_of_betweenTest (h : betweenTest ⟨column, .between, operand⟩ = .ok test) :
    Tests ⟨column, .between, operand⟩ test := by
  unfold betweenTest at h
  split at h
  case h_1 low high hoperand =>
    obtain ⟨l, hlow, h⟩ := bind_eq_ok.mp h
    obtain ⟨r, hhigh, h⟩ := bind_eq_ok.mp h
    cases h
    cases hoperand
    exact .between column (Literal.value_eq_ok_iff.mp hlow) (Literal.value_eq_ok_iff.mp hhigh)
  all_goals cases h

theorem tests_of_inTest (h : inTest ⟨column, .isIn, operand⟩ = .ok test) :
    Tests ⟨column, .isIn, operand⟩ test := by
  unfold inTest at h
  split at h
  case h_1 literals hoperand =>
    cases hoperand
    obtain ⟨values, hvalues, rfl⟩ := map_eq_ok.mp h
    have hbind : Literal.Bind literals values :=
      Logged.forall₂_of_each (Logged.each_of_mapM hvalues) fun _ _ _ _ => Literal.boundAs_of_value
    exact .isIn column hbind
  case h_2 => cases h

theorem tests_of_test {c : Comparison} (h : c.test = .ok test) : c.Tests test := by
  obtain ⟨column, operator, operand⟩ := c
  cases operator with
  | eq => exact tests_of_nullable rfl h (.isNull column)
  | ne => exact tests_of_nullable rfl h (.isNotNull column (.inl rfl))
  | isNot => exact tests_of_nullable rfl h (.isNotNull column (.inr rfl))
  | gt | gte | lt | lte => exact tests_of_against rfl h
  | like => exact tests_of_likeTest h
  | between => exact tests_of_betweenTest h
  | isIn => exact tests_of_inTest h
  | _ => cases h

end Comparison

/-! ## Conditions -/

namespace Clause

theorem conditions_eq_ok : ∀ {clauses : List Clause} {cs : List Condition},
    conditions clauses = .ok cs ↔ List.Forall₂ (fun clause c => clause.condition = .ok c) clauses cs
  | [], cs => by
    rw [conditions, List.forall₂_nil_left_iff, Except.ok.injEq, eq_comm]
  | clause :: rest, cs => by
    rw [conditions, bind_eq_ok, List.forall₂_cons_left_iff]
    refine exists_congr fun c => ?_
    rw [bind_eq_ok]
    simp only [conditions_eq_ok, Except.ok.injEq, exists_and_left, eq_comm]

theorem condition_comparison_eq_ok {x : Comparison} {c : Condition} :
    (comparison x).condition = .ok c ↔ ∃ test, x.test = .ok test ∧ .test test = c := by
  rw [condition, map_eq_ok]

theorem condition_group_eq_ok {combinator : Combinator} {children : List Clause} {c : Condition} :
    (group combinator children).condition = .ok c ↔
      ∃ cs, List.Forall₂ (fun clause c => clause.condition = .ok c) children cs ∧
        Condition.joinAll combinator cs = c := by
  simp only [condition, map_eq_ok, conditions_eq_ok]

end Clause

end HybridQuery
