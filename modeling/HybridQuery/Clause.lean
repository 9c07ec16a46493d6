import HybridQuery.Literal
import HybridQuery.Search.Predicate

/-!
# Clauses

A clause is a comparison of a column, a group of clauses, or a literal, a column or a
compiled search that stands by itself. Clauses form a tree. Two clauses are the `same` when
their trees have one shape and the same literals, columns and operators in it.

A column's methods build its comparisons (`price.gt v`, `price.between low high`).
-/

namespace HybridQuery

/-- A column compared with an operand. -/
structure Comparison where
  column : Column
  operator : Operator
  operand : Operand
  deriving Repr, Inhabited

def Comparison.same (a b : Comparison) : Bool :=
  decide (a.column = b.column) && decide (a.operator = b.operator) && a.operand.same b.operand

inductive Clause where
  | comparison (comparison : Comparison)
  | group (combinator : Combinator) (children : List Clause)
  | literal (value : Literal)
  /-- A column that stands by itself. -/
  | column (column : Column)
  /-- A search that is compiled already. -/
  | compiled (predicate : Predicate)
  deriving Repr, Inhabited

namespace Clause

def kind : Clause → ClauseKind
  | .comparison _ => .comparison
  | .group combinator _ => .group combinator
  | .literal value => .literal value.kind
  | .column c => .column c
  | .compiled _ => .compiled

/-- The conjunction of clauses. -/
def all (clauses : List Clause) : Clause :=
  .group .and clauses

/-- The disjunction of clauses. -/
def any (clauses : List Clause) : Clause :=
  .group .or clauses

/-- The declaration of the table to search. -/
def declare (table : String) : Clause :=
  .literal (.table table)

mutual

def same : Clause → Clause → Bool
  | .comparison a, .comparison b => a.same b
  | .group c as, .group d bs => decide (c = d) && sameAll as bs
  | .literal a, .literal b => a.same b
  | .column a, .column b => decide (a = b)
  | .compiled a, .compiled b => decide (a = b)
  | _, _ => false

def sameAll : List Clause → List Clause → Bool
  | [], [] => true
  | a :: as, b :: bs => same a b && sameAll as bs
  | _, _ => false

end

end Clause

namespace Column

/-- The comparison of a column. -/
def compare (c : Column) (operator : Operator) (operand : Operand) : Clause :=
  .comparison ⟨c, operator, operand⟩

def eq (c : Column) (operand : Operand) : Clause := c.compare .eq operand

def ne (c : Column) (operand : Operand) : Clause := c.compare .ne operand

def gt (c : Column) (operand : Operand) : Clause := c.compare .gt operand

def gte (c : Column) (operand : Operand) : Clause := c.compare .gte operand

def lt (c : Column) (operand : Operand) : Clause := c.compare .lt operand

def lte (c : Column) (operand : Operand) : Clause := c.compare .lte operand

/-- Full-text match. -/
def isMatch (c : Column) (operand : Operand) : Clause := c.compare .matches operand

/-- Phrase match, or regular expression match with a pattern. -/
def like (c : Column) (operand : Operand) : Clause := c.compare .like operand

def isNot (c : Column) (operand : Operand) : Clause := c.compare .isNot operand

/-- In the range from `low` to `high`, both included. -/
def between (c : Column) (low high : Literal) : Clause := c.compare .between (.list [low, high])

/-- Equal to one of the values. -/
def isIn (c : Column) (values : List Literal) : Clause := c.compare .isIn (.list values)

end Column

end HybridQuery
