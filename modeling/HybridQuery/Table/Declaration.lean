import HybridQuery.Clause
import HybridQuery.Table.SnakeCase
import HybridQuery.Text.Similarity

/-!
# Declaring tables

A table is declared as a structure with named fields. Every field that is not skipped has an
accessor for its column. `Declaration.derive` reads the options off a declaration: the table
is named by the structure in snake case and a column by its field, unless the options say
otherwise, and a column is relational unless it is marked for search.

An option may be given once. All faults of a declaration are reported together, except that
fields are looked at only when the declaration itself has no fault.
-/

namespace HybridQuery

/-- An option of a field, as it is written. -/
inductive ColumnOption where
  | search
  | skip
  | rename (name : String)
  /-- A word without a value. -/
  | word (word : String)
  deriving DecidableEq, Repr

structure Field where
  ident : String
  options : List ColumnOption := []
  deriving Repr

/-- What a table is declared as. -/
inductive Body where
  | named (fields : List Field)
  | unnamed (count : Nat)
  | unit
  | enumeration
  deriving Repr

/-- The declaration of a table, with all the names it is given. -/
structure Declaration where
  ident : String
  names : List String := []
  body : Body
  deriving Repr

/-- The accessor of a column. -/
structure Accessor where
  ident : String
  column : Column
  deriving DecidableEq, Repr

/-- A table with the accessors of its columns. -/
structure Table where
  ident : String
  name : String
  accessors : List Accessor
  deriving DecidableEq, Repr

/-- The clause that declares a search in this table. -/
def Table.declare (t : Table) : Clause :=
  Clause.declare t.name

/-! ## Faults -/

/-- What is wrong with a declaration. -/
inductive DeclarationFault where
  | duplicate (option : String)
  | unknown (word : String)
  /-- A word where a value is expected. -/
  | bareWord
  | unnamedFields (count : Nat)
  | noFields
  | enumeration
  /-- A fault at a place. -/
  | at (place : List String) (fault : DeclarationFault)
  | several (faults : List DeclarationFault)
  deriving Repr

namespace DeclarationFault

/-- The options that a field can have. -/
def known : List String :=
  ["rename", "search", "skip"]

mutual

def message : DeclarationFault → String
  | .duplicate option => "Duplicate field `" ++ option ++ "`"
  | .unknown word =>
    "Unknown field: `" ++ word ++ "`" ++
      match closest? word known with
      | some option => ". Did you mean `" ++ option ++ "`?"
      | none => ""
  | .bareWord => "Unexpected meta-item format `word`"
  | .unnamedFields 1 => "Unsupported shape `one unnamed field`. Expected named fields."
  | .unnamedFields _ => "Unsupported shape `unnamed fields`. Expected named fields."
  | .noFields => "Unsupported shape `no fields`. Expected named fields."
  | .enumeration => "Unsupported shape `enum`. Expected struct with named fields."
  | .at place fault => message fault ++ " at " ++ "/".intercalate place
  | .several faults => "Multiple errors: (" ++ ", ".intercalate (messages faults) ++ ")"

def messages : List DeclarationFault → List String
  | [] => []
  | fault :: rest => message fault :: messages rest

end

/-- Several faults as one. -/
def together? : List DeclarationFault → Option DeclarationFault
  | [] => none
  | [fault] => some fault
  | faults => some (.several faults)

end DeclarationFault

/-! ## Reading the options -/

/-- The options of a field as far as they are read. -/
structure FieldOptions where
  search : Bool := false
  skip : Bool := false
  renamed : Bool := false
  rename : Option String := none
  faults : List DeclarationFault := []

namespace FieldOptions

/-- Add a fault. -/
def blame (o : FieldOptions) (fault : DeclarationFault) : FieldOptions :=
  { o with faults := o.faults ++ [fault] }

def addSearch (o : FieldOptions) : FieldOptions :=
  if o.search then o.blame (.duplicate "search") else { o with search := true }

def addSkip (o : FieldOptions) : FieldOptions :=
  if o.skip then o.blame (.duplicate "skip") else { o with skip := true }

/-- A new name, or a word in its place. -/
def addRename (o : FieldOptions) (name : Option String) : FieldOptions :=
  if o.renamed then o.blame (.duplicate "rename")
  else
    match name with
    | some name => { o with renamed := true, rename := some name }
    | none => { o with renamed := true }.blame (.at ["rename"] .bareWord)

/-- Read one more option. -/
def read (o : FieldOptions) : ColumnOption → FieldOptions
  | .search => o.addSearch
  | .skip => o.addSkip
  | .rename name => o.addRename (some name)
  | .word word =>
    if word = "search" then o.addSearch
    else if word = "skip" then o.addSkip
    else if word = "rename" then o.addRename none
    else o.blame (.unknown word)

end FieldOptions

/-- The options of a field. -/
def Field.read (f : Field) : FieldOptions :=
  f.options.foldl FieldOptions.read {}

/-- A fault of a field, at its place. -/
def DeclarationFault.inField (ident : String) : DeclarationFault → DeclarationFault
  | .at place fault => .at (ident :: place) fault
  | fault => .at [ident] fault

/-- The fault of a field, if it has one. -/
def Field.fault? (f : Field) : Option DeclarationFault :=
  (DeclarationFault.together? f.read.faults).map (·.inField f.ident)

/-- The accessor of a field of the table `table`, unless the field is skipped. -/
def Field.accessor? (table : String) (f : Field) : Option Accessor :=
  let options := f.read
  if options.skip then none
  else
    some
      ⟨f.ident,
        ⟨table, options.rename.getD f.ident, if options.search then .search else .relational⟩⟩

namespace Declaration

/-- The faults of a declaration without those of its fields. -/
def faults (d : Declaration) : List DeclarationFault :=
  d.names.tail.map (fun _ => .duplicate "name") ++
    match d.body with
    | .named _ => []
    | .unnamed count => [.unnamedFields count]
    | .unit => [.noFields]
    | .enumeration => [.enumeration]

/-- The fields of a declaration. -/
def fields (d : Declaration) : List Field :=
  match d.body with
  | .named fields => fields
  | _ => []

/-- The name of the table. -/
def tableName (d : Declaration) : String :=
  d.names.head?.getD (snakeCase d.ident)

/-- The table that a declaration stands for. -/
def derive (d : Declaration) : Except DeclarationFault Table :=
  match DeclarationFault.together? d.faults with
  | some fault => .error fault
  | none =>
    match DeclarationFault.together? (d.fields.filterMap Field.fault?) with
    | some fault => .error fault
    | none => .ok ⟨d.ident, d.tableName, d.fields.filterMap (Field.accessor? d.tableName)⟩

end Declaration

end HybridQuery
