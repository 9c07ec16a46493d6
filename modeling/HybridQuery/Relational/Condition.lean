import HybridQuery.Clause

/-!
# Conditions of the relational engine

A condition is a test of one column, a constant, a search written out in SQL, or two
conditions joined. The tests compare with a value or another column, match a pattern, look
into a range or a list, or ask for null. Values never are part of the SQL text; they are
bound to its parameters.
-/

namespace HybridQuery

/-- A value that is bound to a parameter. -/
inductive Value where
  | string (text : String)
  | integer (value : Int64)
  | float (value : Binary64)
  | boolean (value : Bool)
  /-- A number of rows. -/
  | count (value : UInt64)
  deriving DecidableEq, Repr, Inhabited

/-- What a column is tested against. -/
inductive Term where
  | value (value : Value)
  | column (column : Column)
  deriving DecidableEq, Repr, Inhabited

/-- The comparisons that SQL writes between two terms. -/
inductive Comparator where
  | eq
  | ne
  | gt
  | gte
  | lt
  | lte
  | distinct
  deriving DecidableEq, Repr

def Comparator.symbol : Comparator → String
  | .eq => "="
  | .ne => "<>"
  | .gt => ">"
  | .gte => ">="
  | .lt => "<"
  | .lte => "<="
  | .distinct => "IS DISTINCT FROM"

/-- A test of one column. -/
inductive Test where
  | compare (column : Column) (comparator : Comparator) (term : Term)
  | like (column : Column) (pattern : String)
  | between (column : Column) (low high : Value)
  | isIn (column : Column) (values : List Value)
  | isNull (column : Column)
  | isNotNull (column : Column)
  deriving DecidableEq, Repr

/-- A condition on the rows of a table. -/
inductive Condition where
  | test (test : Test)
  | constant (value : Bool)
  /-- A search, as the relational engine reads it. -/
  | search (sql : String)
  | join (combinator : Combinator) (left right : Condition)
  deriving DecidableEq, Repr

namespace Condition

/-- What nothing is joined to. -/
def neutral : Combinator → Condition
  | .and => .constant true
  | .or => .constant false

/-- Conditions joined from left to right. A single one stands for itself. -/
def joinAll (combinator : Combinator) : List Condition → Condition
  | [] => neutral combinator
  | first :: rest => rest.foldl (.join combinator) first

end Condition

end HybridQuery
