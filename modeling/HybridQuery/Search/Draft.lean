import HybridQuery.Column
import HybridQuery.Error

/-!
# Drafts of a search

A `Draft` is a rendered search before it is a query: its text with a `mark` in each place where
the value of a column is put in, those columns in order, and the tables that are searched.

The *template* of a draft is its text when nothing has to be put in, and else a `format`
template: percent signs are doubled and each mark becomes a quoted placeholder. Marks are
in-band, so the two are told apart by counting. The *table* of a draft is the one that it
searches, if it is a single one.
-/

namespace HybridQuery

/-- Stands in a text where the value of a column belongs. -/
def mark : Char := '\x00'

/-- A rendered search before it is a query. -/
structure Draft where
  text : String
  /-- The columns that the marks stand for, in order. -/
  columns : List Column
  /-- The tables that are searched, in the order they were met. -/
  tables : List String
  deriving DecidableEq, Repr

/-! ## The template -/

/-- What a character of the draft becomes in a `format` template. -/
def templateChar (c : Char) : List Char :=
  if c = '%' then ['%', '%']
  else if c = mark then ['"', '%', 's', '"']
  else [c]

/-- The number of marks in a text. -/
def marks (text : List Char) : Nat :=
  text.count mark

@[simp] theorem marks_mark (rest : List Char) : marks (mark :: rest) = marks rest + 1 :=
  List.count_cons_self

theorem marks_cons_of_ne {c : Char} (h : c ≠ mark) (rest : List Char) :
    marks (c :: rest) = marks rest :=
  List.count_cons_of_ne h

@[simp] theorem marks_append (s t : List Char) : marks (s ++ t) = marks s + marks t :=
  List.count_append

/-- The query of a draft, refused when its marks and its columns differ in number. -/
def Draft.template (d : Draft) : Except Error String :=
  if marks d.text.toList ≠ d.columns.length then .error (.invalidParameter .strayMark)
  else if d.columns.isEmpty then .ok d.text
  else .ok (String.ofList (d.text.toList.flatMap templateChar))

/-- The SQL of a value that is put into a query, without the double quotes it stands in. -/
def argumentSql (columnSql : String) : String :=
  "replace(" ++ columnSql ++ ", '\"', '')"

/-! ## The table -/

/-- A name put into its place in a strictly ascending list. -/
def insertAscending (name : String) : List String → List String
  | [] => [name]
  | other :: rest =>
    if name < other then name :: other :: rest
    else if name = other then other :: rest
    else other :: insertAscending name rest

/-- The names, each once, in ascending order. -/
def ascending (names : List String) : List String :=
  names.foldr insertAscending []

/-- The one table that a draft searches. -/
def Draft.table (d : Draft) : Except Error String :=
  match ascending d.tables with
  | [] => .error .noFilterTable
  | [table] => .ok table
  | tables => .error (.ambiguousTable tables)

end HybridQuery
