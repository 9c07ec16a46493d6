import HybridQuery.Order
import HybridQuery.Relational.Condition

/-!
# Clauses as conditions

A clause of the relational engine is a condition when it consists of comparisons and groups
(`Clause.condition`). What a comparison tests depends on the operator first and then on the
operand: null has tests of its own, `LIKE` takes a string, a range takes two bounds. Of
several faults the leftmost one is the error.
-/

namespace HybridQuery

/-- The value that a literal is bound as. Phrases and dates are bound as strings. -/
def Literal.value : Literal → Except Error Value
  | .string text => .ok (.string text)
  | .phrase text => .ok (.string text)
  | .integer n => .ok (.integer n)
  | .float x => .ok (.float x)
  | .boolean b => .ok (.boolean b)
  | .dateTime t => Value.string <$> t.text
  | other => .error (.invalidParameter (.unbindable other.kind))

/-- A single value or a column. -/
def Operand.term : Operand → Except Error Term
  | .literal value => Term.value <$> value.value
  | .column c => .ok (.column c)
  | .list _ => .error (.invalidParameter .listOutside)

/-- The operand is null. -/
def Operand.isNull : Operand → Bool
  | .literal .null => true
  | _ => false

namespace Comparison

/-- The comparison with a single value or a column. -/
def against (c : Comparison) (comparator : Comparator) : Except Error Test :=
  Test.compare c.column comparator <$> c.operand.term

/-- The match of a pattern that is given as a string. -/
def likeTest (c : Comparison) : Except Error Test :=
  match c.operand with
  | .literal (.string pattern) => .ok (.like c.column pattern)
  | other => .error (.invalidParameter (.likeKind c.column other.kind))

/-- The test of a range with two bounds. -/
def betweenTest (c : Comparison) : Except Error Test :=
  match c.operand with
  | .list [low, high] => do
    let low ← low.value
    let high ← high.value
    .ok (.between c.column low high)
  | .list _ => .error (.invalidParameter (.boundsCount c.column))
  | other => .error (.invalidParameter (.listRequired c.operator c.column other.kind))

/-- The test of being one of some values. -/
def inTest (c : Comparison) : Except Error Test :=
  match c.operand with
  | .list values => Test.isIn c.column <$> values.mapM Literal.value
  | other => .error (.invalidParameter (.listRequired c.operator c.column other.kind))

/-- What a comparison tests. -/
def test (c : Comparison) : Except Error Test :=
  match c.operator with
  | .eq => if c.operand.isNull then .ok (.isNull c.column) else c.against .eq
  | .ne => if c.operand.isNull then .ok (.isNotNull c.column) else c.against .ne
  | .isNot => if c.operand.isNull then .ok (.isNotNull c.column) else c.against .distinct
  | .gt => c.against .gt
  | .gte => c.against .gte
  | .lt => c.against .lt
  | .lte => c.against .lte
  | .like => c.likeTest
  | .between => c.betweenTest
  | .isIn => c.inTest
  | .matches => .error (.unsupportedOperator .matches)

end Comparison

namespace Clause

mutual

/-- A clause as a condition. -/
def condition : Clause → Except Error Condition
  | .comparison c => Condition.test <$> c.test
  | .group combinator children => Condition.joinAll combinator <$> conditions children
  | clause => .error (.unsupportedClause (.notACondition clause.kind))

/-- Clauses as conditions, up to the first that is none. -/
def conditions : List Clause → Except Error (List Condition)
  | [] => .ok []
  | clause :: rest => do
    let first ← condition clause
    let others ← conditions rest
    .ok (first :: others)

end

end Clause

end HybridQuery
