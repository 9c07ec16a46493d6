import HybridQuery.Search.Dialect
import HybridQuery.Search.Draft

/-!
# Rendering clauses

A clause is rendered to the text of a search query, with notes of what the text leaves open:
the columns whose values are put in when the query runs, and the tables it searches. Such a
column leaves the character `mark` in the text, once per note in the order of the text. The
mark is in-band, so a stray one in a name, a token or a raw text can be told from a
placeholder only by counting, which is left to whoever finishes the text.

Rendering follows the tree of the clause. A script may have further clauses rendered, so
`renderClause` takes the function for those, and `renderWithin` ties the knot up to a depth of
nesting.
-/

namespace HybridQuery

/-- What a rendered text leaves open. -/
inductive Note where
  /-- A mark stands for the value of this column. -/
  | placeholder (column : Column)
  /-- The text searches this table. -/
  | table (name : String)
  deriving DecidableEq, Repr

def Note.column? : Note → Option Column
  | .placeholder c => some c
  | .table _ => none

def Note.table? : Note → Option String
  | .placeholder _ => none
  | .table name => some name

/-- A text in the making. -/
abbrev Rendered := Logged Note String

/-- A mark for the value of a column. -/
def renderColumn (c : Column) : Rendered :=
  ⟨[.placeholder c], .ok (String.singleton mark)⟩

/-- Literals in brackets. -/
def renderList (values : List Literal) : Except Error String := do
  let texts ← values.mapM renderLiteral
  .ok ("[" ++ ",".intercalate texts ++ "]")

/-- What a column is compared with. -/
def renderOperand : Operand → Rendered
  | .literal value => .lift (renderLiteral value)
  | .column c => renderColumn c
  | .list values => .lift (renderList values)

/-- A literal that stands by itself is a part of the query's text. -/
def renderStanding : Literal → Except Error String
  | .string text => .ok text
  | .raw text => .ok text
  | .integer n => renderLiteral (.integer n)
  | .float x => renderLiteral (.float x)
  | .phrase phrase => renderLiteral (.phrase phrase)
  | .table name => .error (.misplacedTableLiteral name)
  | value => .error (.unsupportedClauseKind (.clause (.literal value.kind)))

/-- Go through a script, with `nested` for the clauses it asks for. -/
def Script.run (nested : Clause → Rendered) : Script → Rendered
  | .done result => .lift result
  | .operand value next => (renderOperand value).andThen fun result => (next result).run nested
  | .clause c next => (nested c).andThen fun result => (next result).run nested

/-- A comparison in the form that the dialect has for its operator. -/
def renderComparison (dialect : Dialect) (nested : Clause → Rendered) (c : Comparison) :
    Rendered := do
  .note (.table c.column.table)
  match ← .lift (dialect.form c.operator) with
  | .token token =>
    let value ← renderOperand c.operand
    pure (c.column.name ++ token ++ value)
  | .script script => (script c.column c.operand).run nested

mutual

/-- A clause as it stands in a query. -/
def renderClause (dialect : Dialect) (nested : Clause → Rendered) : Clause → Rendered
  | .comparison c => renderComparison dialect nested c
  | .group _ [] => .fail (.unsupportedClauseKind .emptyGroup)
  | .group combinator (first :: rest) => do
    let lead ← renderClause dialect nested first
    let texts ← renderEach dialect nested rest
    pure ("(" ++ combinator.joiner.intercalate (lead :: texts) ++ ")")
  | .literal value => .lift (renderStanding value)
  | .column c => renderColumn c
  | .compiled _ => .fail (.unsupportedClauseKind (.clause .compiled))

/-- Clauses one after another. -/
def renderEach (dialect : Dialect) (nested : Clause → Rendered) :
    List Clause → Logged Note (List String)
  | [] => pure []
  | clause :: rest => do
    let text ← renderClause dialect nested clause
    let texts ← renderEach dialect nested rest
    pure (text :: texts)

end

/-- A clause, in which scripts may nest to the depth `n`. -/
def renderWithin (dialect : Dialect) : Nat → Clause → Rendered
  | 0 => renderClause dialect fun _ => .fail (.unsupportedClause .nestedTooDeep)
  | n + 1 => renderClause dialect (renderWithin dialect n)

end HybridQuery
