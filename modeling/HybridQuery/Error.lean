import HybridQuery.DateTime
import HybridQuery.Kind
import HybridQuery.Operator

/-!
# Errors

An `Error` says what is wrong: a clause of a kind that has no search form, an operator
without a form, a parameter or a clause that cannot be used where it stands, or filters
that do not name exactly one table. `Error.message` is the one place that puts it into words.
-/

namespace HybridQuery

/-- What has no form in a search query. -/
inductive Unrenderable where
  | emptyGroup
  | clause (kind : ClauseKind)
  /-- Named by a script of the dialect. -/
  | named (name : String)
  deriving DecidableEq, Repr

/-- What is wrong with a parameter. -/
inductive ParameterFault where
  /-- Not the name of a direction. -/
  | direction (text : String)
  | notFinite (number : Binary64)
  | patternOutsideLike (source : String)
  | tableAsValue (table : String)
  /-- A date outside of the internet format. -/
  | dateTime (part : DateTime.Part)
  /-- The number of placeholder marks is not the number of columns they stand for. -/
  | strayMark
  | betweenWithoutList (column : Column)
  | betweenCount (column : Column) (count : Nat)
  | betweenKind (column : Column) (kind : LiteralKind)
  | likeWithList (column : Column)
  | inWithoutList (column : Column)
  | inMixed (column : Column) (kinds : List LiteralKind)
  /-- A relational `LIKE` without a string. -/
  | likeKind (column : Column) (kind : OperandKind)
  /-- A relational `BETWEEN` without two bounds. -/
  | boundsCount (column : Column)
  /-- A relational `BETWEEN` or `IN` without a list. -/
  | listRequired (operator : Operator) (column : Column) (kind : OperandKind)
  | listOutside
  /-- A literal that is no value of the relational engine. -/
  | unbindable (kind : LiteralKind)
  /-- Told by a script of the dialect. -/
  | told (text : String)
  deriving DecidableEq, Repr

/-- What is wrong with a clause. -/
inductive ClauseFault where
  | literalFilter (kind : LiteralKind)
  | columnFilter (column : Column)
  | compiledFilter
  | emptyGroupFilter
  | filterKind (kind : ClauseKind)
  /-- A disjunction over columns of both engines. -/
  | mixedDisjunction
  | scoreWithoutSearch
  | scoreWithoutTable
  | notACondition (kind : ClauseKind)
  /-- Scripts of the dialect that nest each other beyond the limit. -/
  | nestedTooDeep
  /-- Told by a script of the dialect. -/
  | told (text : String)
  deriving DecidableEq, Repr

/-- Why a query cannot be compiled, split or put into SQL. -/
inductive Error where
  | unsupportedClauseKind (what : Unrenderable)
  | unsupportedOperator (operator : Operator)
  | invalidParameter (fault : ParameterFault)
  | noFilterTable
  | ambiguousTable (tables : List String)
  | misplacedTableLiteral (table : String)
  | unsupportedClause (fault : ClauseFault)
  deriving DecidableEq, Repr

def Unrenderable.text : Unrenderable → String
  | .emptyGroup => "empty group"
  | .clause kind => kind.text
  | .named name => name

def ParameterFault.text : ParameterFault → String
  | .direction text => "Invalid direction '" ++ text ++ "', expected 'asc' or 'desc'"
  | .notFinite number => "Non-finite number '" ++ number.text ++ "' can't be searched for"
  | .patternOutsideLike source =>
    "Regular expression '" ++ source ++ "' is only supported by LIKE"
  | .tableAsValue table => "Table '" ++ table ++ "' can't be used as a value"
  | .dateTime part =>
    "The " ++ part.text ++ " component cannot be formatted into the requested format."
  | .strayMark => "Query text must not contain NUL characters"
  | .betweenWithoutList column =>
    "BETWEEN on '" ++ column.qualified ++ "' requires a pair of bounds"
  | .betweenCount column count =>
    "BETWEEN on '" ++ column.qualified ++ "' requires exactly two bounds, got " ++
      naturalText count
  | .betweenKind column kind =>
    "BETWEEN on '" ++ column.qualified ++ "' requires numeric bounds, got " ++ kind.text
  | .likeWithList column => "LIKE on '" ++ column.qualified ++ "' does not accept a list"
  | .inWithoutList column => "IN on '" ++ column.qualified ++ "' requires a list of values"
  | .inMixed column kinds =>
    "IN on '" ++ column.qualified ++
      "' requires a non-empty list of only strings or only numbers, got [" ++
      ", ".intercalate (kinds.map LiteralKind.text) ++ "]"
  | .likeKind column kind =>
    "LIKE on '" ++ column.qualified ++ "' requires a string pattern, got " ++ kind.text
  | .boundsCount column => "BETWEEN on '" ++ column.qualified ++ "' requires exactly two bounds"
  | .listRequired operator column kind =>
    operator.symbol ++ " on '" ++ column.qualified ++ "' requires a list, got " ++ kind.text
  | .listOutside => "A list can only be used with IN or BETWEEN"
  | .unbindable kind => kind.text ++ " literal can't be used as a relational value"
  | .told text => text

def ClauseFault.text : ClauseFault → String
  | .literalFilter kind => kind.text ++ " literal can't be used as a filter"
  | .columnFilter column => "Column '" ++ column.qualified ++ "' can't be used as a filter"
  | .compiledFilter =>
    "Search clauses are compiled when materializing, and can't be added compiled"
  | .emptyGroupFilter => "Empty groups can't be used as a filter"
  | .filterKind kind => kind.text ++ " can't be used as a filter"
  | .mixedDisjunction => "A disjunction can't mix search-indexed and relational columns"
  | .scoreWithoutSearch => "Ordering by score requires a filter on a search-indexed column"
  | .scoreWithoutTable => "Ordering by score requires a search table"
  | .notACondition kind => kind.text ++ " can't be translated into a condition"
  | .nestedTooDeep => "Scripts are nested too deep"
  | .told text => text

/-- The error in words. -/
def Error.message : Error → String
  | .unsupportedClauseKind what => "Unsupported clause kind: " ++ what.text
  | .unsupportedOperator operator => "Unsupported operator: " ++ operator.symbol
  | .invalidParameter fault => "Invalid parameter: " ++ fault.text
  | .noFilterTable => "No filters passed, unable to determine the search table"
  | .ambiguousTable tables =>
    "Filters reference more than one table: " ++ ", ".intercalate tables
  | .misplacedTableLiteral table =>
    "Table '" ++ table ++ "' can only be declared as the first clause"
  | .unsupportedClause fault => "Unsupported clause: " ++ fault.text

end HybridQuery
