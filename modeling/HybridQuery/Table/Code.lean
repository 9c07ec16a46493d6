import HybridQuery.Table.Declaration

/-!
# The code of a table

The code that gives a structure its table and its accessors, as a row of tokens with a blank
between any two, except inside of parentheses and brackets next to them.
-/

namespace HybridQuery

/-- A text between double quotes. -/
def quotedToken (text : String) : String :=
  "\"" ++ text ++ "\""

/-- The path to a name of the expression model. -/
def modelPath (name : String) : String :=
  "zdb_query :: model :: " ++ name

/-- Tokens between braces. -/
def braced (tokens : List String) : String :=
  " ".intercalate (("\x7b" :: tokens) ++ ["\x7d"])

def Engine.code : Engine → String
  | .search => modelPath "ColumnKind :: Search"
  | .relational => modelPath "ColumnKind :: Relational"

/-- The column that an accessor gives. -/
def Column.code (c : Column) : String :=
  modelPath "Column :: new (" ++ quotedToken c.table ++ " , " ++ quotedToken c.name ++ " , " ++
    c.engine.code ++ ")"

def Accessor.code (a : Accessor) : String :=
  "pub fn " ++ a.ident ++ " () -> " ++ modelPath "Column " ++ braced [a.column.code]

/-- The code that names the table. -/
def Table.nameCode (t : Table) : String :=
  "impl " ++ modelPath "Table for " ++ t.ident ++ " " ++
    braced ["const NAME : & 'static str = " ++ quotedToken t.name ++ " ;"]

/-- The code of the accessors. -/
def Table.accessorCode (t : Table) : String :=
  "# [allow (dead_code)] impl " ++ t.ident ++ " " ++ braced (t.accessors.map Accessor.code)

end HybridQuery
