import HybridQuery.Pattern

/-!
# Literals and operands

A column is compared with an `Operand`: a literal, another column, or a list of literals. Two
literals are the `same` when they have one kind and equal contents, where floating point
numbers compare as numbers and dates as instants.
-/

namespace HybridQuery

/-- A date in the internet format, which may have no room for it. -/
def DateTime.text (t : DateTime) : Except Error String :=
  match t.rfc3339 with
  | .ok text => .ok text
  | .error part => .error (.invalidParameter (.dateTime part))

/-- A value that is written down. -/
inductive Literal where
  | string (text : String)
  | integer (value : Int64)
  | float (value : Binary64)
  | boolean (value : Bool)
  | null
  | pattern (pattern : Pattern)
  /-- Text that is part of the search query as it stands. -/
  | raw (text : String)
  /-- Words to be found one after another. -/
  | phrase (text : String)
  /-- The declaration of the table to search. -/
  | table (name : String)
  | dateTime (value : DateTime)
  deriving Repr, Inhabited

namespace Literal

def kind : Literal → LiteralKind
  | .string _ => .string
  | .integer _ => .integer
  | .float _ => .float
  | .boolean _ => .boolean
  | .null => .null
  | .pattern _ => .pattern
  | .raw _ => .raw
  | .phrase _ => .phrase
  | .table _ => .table
  | .dateTime _ => .dateTime

/-- An integer or a floating point number. -/
def isNumeric : Literal → Bool
  | .integer _ => true
  | .float _ => true
  | _ => false

def isString : Literal → Bool
  | .string _ => true
  | _ => false

/-- A phrase that may come in double quotes. -/
def phraseOf (text : String) : Literal :=
  .phrase (String.ofList (trimBoth '"' text.toList))

/-- A missing value is null. -/
def ofOption : Option Literal → Literal
  | some value => value
  | none => .null

/-- A number of 32 bits, widened. -/
def ofBinary32 (bits : UInt32) : Literal :=
  .float (Binary64.ofBinary32 bits)

/-- Equal contents of one kind. -/
def same : Literal → Literal → Bool
  | .string a, .string b => decide (a = b)
  | .integer a, .integer b => decide (a = b)
  | .float a, .float b => a.same b
  | .boolean a, .boolean b => decide (a = b)
  | .null, .null => true
  | .pattern a, .pattern b => decide (a = b)
  | .raw a, .raw b => decide (a = b)
  | .phrase a, .phrase b => decide (a = b)
  | .table a, .table b => decide (a = b)
  | .dateTime a, .dateTime b => a.same b
  | _, _ => false

/-- Lists of one length with the same literals at each place. -/
def sameAll : List Literal → List Literal → Bool
  | [], [] => true
  | a :: as, b :: bs => a.same b && sameAll as bs
  | _, _ => false

end Literal

/-- What a column is compared with. -/
inductive Operand where
  | literal (value : Literal)
  | column (column : Column)
  | list (values : List Literal)
  deriving Repr, Inhabited

namespace Operand

def kind : Operand → OperandKind
  | .literal value => .literal value.kind
  | .column _ => .column
  | .list _ => .list

def same : Operand → Operand → Bool
  | .literal a, .literal b => a.same b
  | .column a, .column b => decide (a = b)
  | .list as, .list bs => Literal.sameAll as bs
  | _, _ => false

end Operand

end HybridQuery
