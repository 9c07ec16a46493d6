import HybridQuery.Column

/-!
# Kinds of literals, operands and clauses

A kind says what a value or clause is without its contents. Messages name kinds, so each has
its text here.
-/

namespace HybridQuery

/-- The kind of a literal. -/
inductive LiteralKind where
  | string
  | integer
  | float
  | boolean
  | null
  | pattern
  | raw
  | phrase
  | table
  | dateTime
  deriving DecidableEq, Repr

def LiteralKind.text : LiteralKind → String
  | .string => "string"
  | .integer => "integer"
  | .float => "float"
  | .boolean => "boolean"
  | .null => "null"
  | .pattern => "pattern"
  | .raw => "raw"
  | .phrase => "phrase"
  | .table => "table"
  | .dateTime => "datetime"

/-- The kind of what a column is compared with. -/
inductive OperandKind where
  | literal (kind : LiteralKind)
  | column
  | list
  deriving DecidableEq, Repr

def OperandKind.text : OperandKind → String
  | .literal kind => kind.text
  | .column => "column"
  | .list => "list"

/-- How the children of a group are combined. -/
inductive Combinator where
  | and
  | or
  deriving DecidableEq, Repr

/-- What stands between two children of a group in a search query. -/
def Combinator.joiner : Combinator → String
  | .and => " and "
  | .or => " or "

/-- The kind of a clause. A column reference is told by the column. -/
inductive ClauseKind where
  | comparison
  | group (combinator : Combinator)
  | literal (kind : LiteralKind)
  | column (column : Column)
  | compiled
  deriving DecidableEq, Repr

def ClauseKind.text : ClauseKind → String
  | .comparison => "comparison"
  | .group .and => "and group"
  | .group .or => "or group"
  | .literal kind => kind.text ++ " literal"
  | .column c => "column " ++ c.qualified
  | .compiled => "compiled search clause"

end HybridQuery
