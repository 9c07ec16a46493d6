import HybridQuery.Search.Predicate
import Mathlib.Data.List.Basic
import Mathlib.Tactic.Common

/-!
# Reading a predicate back from its SQL

A string literal of SQL ends at the first quote that is not doubled, and backslashes mean
nothing in it (`Sql.readLiteral`). Whatever a text holds, also quotes at its ends, its literal is
read back as the text, and reading stops right behind it, as long as no quote follows there
(`Sql.readLiteral_literal`).

`Predicate.read` finds the two literals of a predicate. What it reads from `Predicate.sql` is the
table and the query as they are, in a `format` call exactly if there are arguments, and behind
the query only the arguments (`Predicate.read_sql`). So predicates with the same SQL are the
same, but for how their arguments are cut into parts (`Predicate.read_sql_unique`).
-/

namespace HybridQuery

namespace Sql

/-! ## Literals -/

/-- The rest of a string literal, from behind its opening quote: its text and what follows. -/
def readText : List Char → Option (List Char × List Char)
  | [] => none
  | c :: rest =>
    if c = '\'' then
      match rest with
      | [] => some ([], [])
      | d :: others =>
        if d = '\'' then (readText others).map (Prod.map ('\'' :: ·) id) else some ([], d :: others)
    else (readText rest).map (Prod.map (c :: ·) id)

/-- A string literal at the beginning: its text and what follows it. -/
def readLiteral : List Char → Option (String × List Char)
  | [] => none
  | c :: rest => if c = '\'' then (readText rest).map (Prod.map String.ofList id) else none

theorem readText_doubled (rest : List Char) :
    readText ('\'' :: '\'' :: rest) = (readText rest).map (Prod.map ('\'' :: ·) id) := by
  simp [readText]

theorem readText_cons_of_ne {c : Char} (h : c ≠ '\'') (rest : List Char) :
    readText (c :: rest) = (readText rest).map (Prod.map (c :: ·) id) := by
  rw [readText.eq_def]
  exact if_neg h

/-- A quote that is not doubled ends the literal. -/
theorem readText_quote {rest : List Char} (h : rest.head? ≠ some '\'') :
    readText ('\'' :: rest) = some ([], rest) := by
  cases rest with
  | nil => rfl
  | cons d others =>
    have hd : d ≠ '\'' := fun heq => h (by rw [heq]; rfl)
    simp [readText, hd]

theorem readText_doubleAll {rest : List Char} (h : rest.head? ≠ some '\'') :
    ∀ text : List Char, readText (doubleAll '\'' text ++ '\'' :: rest) = some (text, rest)
  | [] => readText_quote h
  | c :: text => by
    have ih := readText_doubleAll h text
    by_cases hc : c = '\''
    · subst hc
      rw [doubleAll_cons_self, List.cons_append, List.cons_append, readText_doubled, ih]
      rfl
    · rw [doubleAll_cons_of_ne hc, List.cons_append, readText_cons_of_ne hc, ih]
      rfl

/-- A literal is read back as its text. -/
theorem readLiteral_literal (text : String) {rest : List Char} (h : rest.head? ≠ some '\'') :
    readLiteral ((literal text).toList ++ rest) = some (text, rest) := by
  have hlist : (literal text).toList ++ rest =
      '\'' :: (doubleAll '\'' text.toList ++ '\'' :: rest) := by
    simp [literal, quoted]
  rw [hlist, readLiteral, if_pos rfl, readText_doubleAll h, Option.map_some, Prod.map_apply,
    String.ofList_toList]
  rfl

end Sql

/-! ## Predicates -/

namespace Predicate

/-- The parts of a predicate as its SQL shows them. -/
structure Reading where
  table : String
  query : String
  /-- Whether the query stands in a call of `format`. -/
  formatted : Bool
  /-- What follows the query. -/
  rest : String
  deriving DecidableEq, Repr

/-- The query of a predicate, from behind the arrow, whether it stands in a call of `format`, and
what follows it. -/
def readQuery (text : List Char) : Option (String × Bool × List Char) :=
  match text.dropPrefix? "format(".toList with
  | some inner => (Sql.readLiteral inner).map fun (query, rest) => (query, true, rest)
  | none => (Sql.readLiteral text).map fun (query, rest) => (query, false, rest)

/-- Read a predicate, whose table and query are string literals. -/
def read (sql : String) : Option Reading := do
  let text ← sql.toList.dropPrefix? "zdb(".toList
  let (table, text) ← Sql.readLiteral text
  let text ← text.dropPrefix? ", ctid) ==> ".toList
  let (query, formatted, rest) ← readQuery text
  some ⟨table, query, formatted, String.ofList rest⟩

/-- A quote is no call. -/
theorem readQuery_literal (query : String) :
    readQuery (Sql.literal query).toList = some (query, false, []) := by
  have hcall : (Sql.literal query).toList.dropPrefix? "format(".toList = none := by
    simp [Sql.literal, List.dropPrefix?]
  have hquery : Sql.readLiteral ((Sql.literal query).toList ++ []) = some (query, []) :=
    Sql.readLiteral_literal query (by simp)
  rw [List.append_nil] at hquery
  rw [readQuery, hcall, hquery]
  rfl

theorem readQuery_format (query : String) {rest : List Char} (h : rest.head? ≠ some '\'') :
    readQuery ("format(".toList ++ ((Sql.literal query).toList ++ rest)) =
      some (query, true, rest) := by
  have hcall := List.dropPrefix?_append_of_beq ((Sql.literal query).toList ++ rest)
    (BEq.refl "format(".toList)
  have hquery := Sql.readLiteral_literal query h
  simp only [readQuery, hcall, hquery]
  rfl

/-- The literal of the table ends in front of the arrow. -/
theorem read_of_readQuery (table : String) {query : String} {formatted : Bool}
    {body rest : List Char} (h : readQuery body = some (query, formatted, rest)) :
    read (String.ofList ("zdb(".toList ++ ((Sql.literal table).toList ++
      (", ctid) ==> ".toList ++ body)))) = some ⟨table, query, formatted, String.ofList rest⟩ := by
  have hlead := List.dropPrefix?_append_of_beq
    ((Sql.literal table).toList ++ (", ctid) ==> ".toList ++ body)) (BEq.refl "zdb(".toList)
  have htable := Sql.readLiteral_literal table
    (by simp : (", ctid) ==> ".toList ++ body).head? ≠ some '\'')
  have harrow := List.dropPrefix?_append_of_beq body (BEq.refl ", ctid) ==> ".toList)
  rw [read, String.toList_ofList, hlead]
  simp only [Option.bind_eq_bind, Option.bind_some, htable, harrow, h]

/-- The SQL of a predicate is read back as the table, the query and the joined arguments. -/
theorem read_sql (p : Predicate) : read p.sql =
    some ⟨p.table, p.query, !p.arguments.isEmpty,
      if p.arguments.isEmpty then "" else ", " ++ ", ".intercalate p.arguments ++ ")"⟩ := by
  obtain ⟨table, query, arguments⟩ := p
  cases arguments with
  | nil =>
    have hsql : Predicate.sql ⟨table, query, []⟩ = String.ofList ("zdb(".toList ++
        ((Sql.literal table).toList ++ (", ctid) ==> ".toList ++ (Sql.literal query).toList))) := by
      simp [sql, ← String.toList_inj]
    rw [hsql, read_of_readQuery table (readQuery_literal query)]
    rfl
  | cons first others =>
    have hsql : Predicate.sql ⟨table, query, first :: others⟩ = String.ofList ("zdb(".toList ++
        ((Sql.literal table).toList ++ (", ctid) ==> ".toList ++ ("format(".toList ++
          ((Sql.literal query).toList ++
            (", " ++ ", ".intercalate (first :: others) ++ ")").toList))))) := by
      simp [sql, ← String.toList_inj]
    have hquery := readQuery_format query
      (by simp : (", " ++ ", ".intercalate (first :: others) ++ ")").toList.head? ≠ some '\'')
    rw [hsql, read_of_readQuery table hquery, String.ofList_toList]
    rfl

/-- The SQL of a predicate is read back part by part: the table and the query decoded, the query
in a call of `format` exactly if there are arguments, and behind it the joined arguments or
nothing. So the SQL determines the table, the query and the joined arguments. -/
theorem read_sql_unique (p : Predicate) :
    (read p.sql = some ⟨p.table, p.query, !p.arguments.isEmpty,
      if p.arguments.isEmpty then "" else ", " ++ ", ".intercalate p.arguments ++ ")"⟩) ∧
    ∀ q : Predicate, p.sql = q.sql → p.table = q.table ∧ p.query = q.query ∧
      ", ".intercalate p.arguments = ", ".intercalate q.arguments := by
  refine ⟨read_sql p, fun q h => ?_⟩
  have hread := read_sql p
  rw [h, read_sql q, Option.some.injEq, Reading.mk.injEq] at hread
  obtain ⟨htable, hquery, hformatted, hrest⟩ := hread
  refine ⟨htable.symm, hquery.symm, ?_⟩
  cases hp : p.arguments with
  | nil =>
    have hq : q.arguments = [] := by simpa [hp] using hformatted
    rw [hq]
  | cons first others =>
    have hq : q.arguments.isEmpty = false := by simpa [hp] using hformatted
    rw [hq, hp] at hrest
    simpa [← String.toList_inj] using hrest.symm

/-- Quotes at both ends of both texts, and arguments that only differ in how they are cut. -/
theorem read_sql_unique_quotes :
    read (Predicate.sql ⟨"'it''s'", "'", ["a, b"]⟩) = some ⟨"'it''s'", "'", true, ", a, b)"⟩ ∧
      ", ".intercalate ["a, b"] = ", ".intercalate ["a", "b"] := by
  have h := read_sql_unique ⟨"'it''s'", "'", ["a, b"]⟩
  exact ⟨h.1, (h.2 ⟨"'it''s'", "'", ["a", "b"]⟩ rfl).2.2⟩

end Predicate

end HybridQuery
