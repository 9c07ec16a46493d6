import HybridQuery.Relational.Condition

/-!
# Statements in SQL

A statement is written as pieces: text, and values in the places of parameters (`Piece`).
`Statement.sql` numbers the parameters from one, in the order in which `Statement.values`
lists what is bound to them.

Of two joined conditions, tests that SQL reads as one comparison and constants stand as they
are. Ranges, `IS DISTINCT FROM`, searches and joined conditions stand in parentheses, except
for one joined in the same way on the left, which is how SQL reads it anyway.
-/

namespace HybridQuery

/-- A piece of a statement. -/
inductive Piece where
  | text (sql : String)
  | parameter (value : Value)
  deriving DecidableEq, Repr

/-- A statement in pieces. -/
abbrev Statement := List Piece

namespace Statement

/-- The SQL, its parameters numbered from `n`. -/
def sqlFrom : Nat → Statement → String
  | _, [] => ""
  | n, .text sql :: rest => sql ++ sqlFrom n rest
  | n, .parameter _ :: rest => "$" ++ naturalText n ++ sqlFrom (n + 1) rest

/-- The SQL of a statement. -/
def sql (s : Statement) : String :=
  sqlFrom 1 s

/-- The values bound to the parameters, in order. -/
def values : Statement → List Value
  | [] => []
  | .text _ :: rest => values rest
  | .parameter value :: rest => value :: values rest

@[simp] theorem values_append (t : Statement) : ∀ s : Statement,
    (s ++ t).values = s.values ++ t.values
  | [] => rfl
  | .text _ :: s => values_append t s
  | .parameter value :: s => congrArg (value :: ·) (values_append t s)

theorem sqlFrom_append (t : Statement) : ∀ (s : Statement) (n : Nat),
    sqlFrom n (s ++ t) = sqlFrom n s ++ sqlFrom (n + s.values.length) t
  | [], n => (String.empty_append ..).symm
  | .text sql :: s, n => by
    rw [List.cons_append, sqlFrom, sqlFrom_append t s, sqlFrom, String.append_assoc]
    rfl
  | .parameter value :: s, n => by
    rw [List.cons_append, sqlFrom, sqlFrom_append t s, sqlFrom, values, List.length_cons,
      Nat.add_right_comm, Nat.add_assoc, ← String.append_assoc]

/-- Statements with a separator between them. -/
def separated (separator : String) : List Statement → Statement
  | [] => []
  | [s] => s
  | s :: rest => s ++ .text separator :: separated separator rest

end Statement

/-- A column by its quoted name. -/
def Column.sql (c : Column) : String :=
  Sql.identifier c.table ++ "." ++ Sql.identifier c.name

def Term.statement : Term → Statement
  | .value v => [.parameter v]
  | .column c => [.text c.sql]

/-- A test. Nothing is in an empty list, which SQL cannot write, so two different numbers are
compared in its place. -/
def Test.statement : Test → Statement
  | .compare c comparator term => .text (c.sql ++ " " ++ comparator.symbol ++ " ") :: term.statement
  | .like c pattern => [.text (c.sql ++ " LIKE "), .parameter (.string pattern)]
  | .between c low high =>
    [.text (c.sql ++ " BETWEEN "), .parameter low, .text " AND ", .parameter high]
  | .isIn _ [] => [.parameter (.integer 1), .text " = ", .parameter (.integer 2)]
  | .isIn c values =>
    .text (c.sql ++ " IN (") ::
      Statement.separated ", " (values.map fun value => [.parameter value]) ++ [.text ")"]
  | .isNull c => [.text (c.sql ++ " IS NULL")]
  | .isNotNull c => [.text (c.sql ++ " IS NOT NULL")]

/-- A test that stands in parentheses beside another condition. -/
def Test.isWrapped : Test → Bool
  | .compare _ .distinct _ => true
  | .between _ _ _ => true
  | _ => false

def Combinator.sql : Combinator → String
  | .and => " AND "
  | .or => " OR "

namespace Condition

/-- The condition stands in parentheses on the right of another. -/
def isWrapped : Condition → Bool
  | .test t => t.isWrapped
  | .constant _ => false
  | .search _ => true
  | .join _ _ _ => true

/-- The condition stands in parentheses on the left of another. -/
def isWrappedLeft (combinator : Combinator) : Condition → Bool
  | .join inner _ _ => decide (inner ≠ combinator)
  | other => other.isWrapped

/-- A part in parentheses if need be. -/
def wrap (wrapped : Bool) (s : Statement) : Statement :=
  if wrapped then .text "(" :: s ++ [.text ")"] else s

/-- A condition in SQL. -/
def statement : Condition → Statement
  | .test t => t.statement
  | .constant true => [.text "TRUE"]
  | .constant false => [.text "FALSE"]
  | .search sql => [.text sql]
  | .join combinator left right =>
    wrap (left.isWrappedLeft combinator) left.statement ++
      .text combinator.sql :: wrap right.isWrapped right.statement

end Condition

end HybridQuery
