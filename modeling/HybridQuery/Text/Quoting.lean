/-!
# Quoting for SQL

SQL closes a quoted text at the first quote that stands alone, so a quote inside is
written twice. `doubleAll` does that to characters; `Sql.literal` and `Sql.identifier`
are the two quoted forms, a string between single quotes and a name between double
quotes. Backslashes are ordinary characters in both.
-/

namespace HybridQuery

/-- Every `q` of a text written twice, everything else once. -/
def doubleAll (q : Char) : List Char → List Char
  | [] => []
  | c :: rest => if c = q then c :: c :: doubleAll q rest else c :: doubleAll q rest

@[simp] theorem doubleAll_nil (q : Char) : doubleAll q [] = [] := rfl

@[simp] theorem doubleAll_cons_self (q : Char) (rest : List Char) :
    doubleAll q (q :: rest) = q :: q :: doubleAll q rest := by
  simp [doubleAll]

theorem doubleAll_cons_of_ne {q c : Char} (h : c ≠ q) (rest : List Char) :
    doubleAll q (c :: rest) = c :: doubleAll q rest := by
  simp [doubleAll, h]

@[simp] theorem doubleAll_append (q : Char) (s t : List Char) :
    doubleAll q (s ++ t) = doubleAll q s ++ doubleAll q t := by
  induction s with
  | nil => rfl
  | cons c rest ih => by_cases h : c = q <;> simp [doubleAll, h, ih]

namespace Sql

/-- The text with its single quotes doubled, ready to stand inside a string literal. -/
def quoted (text : String) : String :=
  String.ofList (doubleAll '\'' text.toList)

/-- A string literal. -/
def literal (text : String) : String :=
  "'" ++ quoted text ++ "'"

/-- A quoted name. -/
def identifier (name : String) : String :=
  "\"" ++ String.ofList (doubleAll '"' name.toList) ++ "\""

end Sql

end HybridQuery
