import HybridQuery.Proofs.SqlFormula
import HybridQuery.Relational.ClauseCondition

/-!
# Conditions are read back

A test is read back wherever an operand may stand (`Test.isOperand_statement`). The parentheses
around a condition depend on what stands next to it (`Condition.Reads`), and those that
`Condition.statement` leaves out are not needed, so the SQL of a condition is read back as the
formula of the same structure (`Condition.Denotes.read`).
-/

namespace HybridQuery

open Sql

/-! ## Formulas -/

namespace Sql

/-- The truth of a test. Two integers are compared as they are. -/
def Leaf.truth (tests : Leaf → Truth) : Leaf → Truth
  | .compare (.value (.integer a)) .eq (.value (.integer b)) => if a = b then .yes else .no
  | leaf => tests leaf

end Sql

/-- How the truth of a group comes from the truth of its children. -/
def Combinator.truth : Combinator → Truth → Truth → Truth
  | .and => Truth.and
  | .or => Truth.or

/-- The truth of a group without children. -/
def Combinator.neutral : Combinator → Truth
  | .and => .yes
  | .or => .no

namespace Combinator

theorem truth_assoc (combinator : Combinator) (a b c : Truth) :
    combinator.truth (combinator.truth a b) c = combinator.truth a (combinator.truth b c) := by
  cases combinator <;> cases a <;> cases b <;> cases c <;> rfl

@[simp] theorem truth_neutral (combinator : Combinator) (a : Truth) :
    combinator.truth a combinator.neutral = a := by
  cases combinator <;> cases a <;> rfl

end Combinator

namespace Sql.Formula

def truth (tests : Leaf → Truth) : Formula → Truth
  | .leaf l => l.truth tests
  | .constant value => if value then .yes else .no
  | .join combinator left right => combinator.truth (left.truth tests) (right.truth tests)

/-- The tests of a formula from left to right. -/
def leaves : Formula → List Leaf
  | .leaf l => [l]
  | .constant _ => []
  | .join _ left right => left.leaves ++ right.leaves

/-- Formulas joined from left to right. -/
def joinAll (combinator : Combinator) : List Formula → Formula
  | [] => .constant (combinator = .and)
  | first :: rest => rest.foldl (.join combinator) first

theorem leaves_joinAll (combinator : Combinator) (formulas : List Formula) :
    (joinAll combinator formulas).leaves = formulas.flatMap leaves := by
  have hfold : ∀ (rest : List Formula) (first : Formula),
      (rest.foldl (.join combinator) first).leaves = first.leaves ++ rest.flatMap leaves := by
    intro rest
    induction rest with
    | nil => simp
    | cons next rest ih =>
      intro first
      rw [List.foldl_cons, ih, leaves, List.flatMap_cons, List.append_assoc]
  cases formulas with
  | nil => rfl
  | cons first rest => exact hfold rest first

theorem truth_joinAll (tests : Leaf → Truth) (combinator : Combinator)
    (formulas : List Formula) : (joinAll combinator formulas).truth tests =
      formulas.foldr (fun f t => combinator.truth (f.truth tests) t) combinator.neutral := by
  have hfold : ∀ (rest : List Formula) (first : Formula),
      (rest.foldl (.join combinator) first).truth tests = combinator.truth (first.truth tests)
        (rest.foldr (fun f t => combinator.truth (f.truth tests) t) combinator.neutral) := by
    intro rest
    induction rest with
    | nil => simp
    | cons next rest ih =>
      intro first
      rw [List.foldl_cons, ih, truth, combinator.truth_assoc, List.foldr_cons]
  cases formulas with
  | nil => cases combinator <;> rfl
  | cons first rest => exact hfold rest first

end Sql.Formula

/-! ## Statements -/

namespace Statement

/-- The statement is read as the formula, also as an operand of `AND`. -/
def IsOperand (s : Statement) (f : Formula) : Prop :=
  ∃ ts, s.Shows ts ∧ Level.ReadsOperand ts f

/-- The statement is read as the formula, also on the left of `AND`. -/
def IsConjunction (s : Statement) (f : Formula) : Prop :=
  ∃ ts, s.Shows ts ∧ Level.ReadsConjunction ts f

/-- The statement is read as the formula if nothing but parentheses or `OR` stands around it. -/
def IsFormula (s : Statement) (f : Formula) : Prop :=
  ∃ ts, s.Shows ts ∧ Level.ReadsFormula ts f

variable {s t : Statement} {f g : Formula}

theorem IsOperand.conjunction : s.IsOperand f → s.IsConjunction f
  | ⟨ts, hs, hf⟩ => ⟨ts, hs, hf.conjunction⟩

theorem IsConjunction.formula : s.IsConjunction f → s.IsFormula f
  | ⟨ts, hs, hf⟩ => ⟨ts, hs, hf.formula⟩

theorem IsFormula.wrap : s.IsFormula f → (Condition.wrap true s).IsOperand f
  | ⟨_, hs, hf⟩ => ⟨_, hs.parens, hf.parens⟩

theorem Shows.join {ts us : List Token} (combinator : Combinator) (keyword : Keyword)
    (hsql : combinator.sql = " " ++ keyword.text ++ " ") (hs : s.Shows ts) (ht : t.Shows us) :
    Shows (s ++ .text combinator.sql :: t) (ts ++ .keyword keyword :: us) := by
  have hkeyword : Shows [.text keyword.text] [.keyword keyword] :=
    Shows.text fun _ => lexes_keyword keyword
  refine (hs.append_blank (hkeyword.append_blank ht)).congr ?_ ?_
  · simp [values]
  · intro n
    simp [sqlFrom, sqlFrom_append, hsql, String.append_assoc]

theorem IsConjunction.and (hs : s.IsConjunction f) (ht : t.IsOperand g) :
    IsConjunction (s ++ .text (Combinator.sql .and) :: t) (.join .and f g) := by
  obtain ⟨ts, hs, hf⟩ := hs
  obtain ⟨us, ht, hg⟩ := ht
  exact ⟨_, hs.join .and .and rfl ht, hf.and hg⟩

theorem IsFormula.or (hs : s.IsFormula f) (ht : t.IsConjunction g) :
    IsFormula (s ++ .text (Combinator.sql .or) :: t) (.join .or f g) := by
  obtain ⟨ts, hs, hf⟩ := hs
  obtain ⟨us, ht, hg⟩ := ht
  exact ⟨_, hs.join .or .or rfl ht, hf.or hg⟩

/-- A statement by itself is read back. -/
theorem IsFormula.read (h : s.IsFormula f) : Formula.read s.values s.sql = some f := by
  obtain ⟨ts, hs, hf⟩ := h
  have hlex : lex s.values .blank s.sql.toList = some ts := by
    simpa [sql, lex, Mode.token?] using hs [] [] [] (by simp [Delimited])
  rw [Formula.read, hlex, Option.bind_some, hf.parse]

end Statement

/-! ## Tests -/

def Term.atom : Term → Atom
  | .value v => .value v
  | .column c => .ofColumn c

namespace Test

/-- A test as SQL reads it. Nothing is in an empty list, nor are two different numbers equal. -/
def leaf : Test → Leaf
  | .compare c comparator term => .compare (.ofColumn c) comparator term.atom
  | .like c pattern => .like (.ofColumn c) (.value (.string pattern))
  | .between c low high => .between (.ofColumn c) (.value low) (.value high)
  | .isIn _ [] => .compare (.value (.integer 1)) .eq (.value (.integer 2))
  | .isIn c (value :: values) => .isIn (.ofColumn c) ((value :: values).map .value)
  | .isNull c => .isNull (.ofColumn c)
  | .isNotNull c => .isNotNull (.ofColumn c)

end Test

namespace Sql

/-- The tokens of a list between its parentheses. -/
def listTokens : List Atom → List Token
  | [] => []
  | [a] => [.atom a]
  | a :: rest => .atom a :: .comma :: listTokens rest

theorem readList_listTokens : ∀ (a : Atom) (atoms : List Atom),
    readList (listTokens (a :: atoms) ++ [.closing]) = some (a :: atoms)
  | _, [] => rfl
  | a, b :: atoms => by
    have ih := readList_listTokens b atoms
    rw [listTokens, List.cons_append, List.cons_append, readList, ih]
    · rfl
    · simp

/-- The closing parenthesis of a list is a part of the test, and so is all that stands in the
list. -/
theorem taken_listTokens : ∀ (atoms : List Atom) (read : List Token),
    Token.opening ∈ read → Token.closing ∉ read →
      Level.Taken read (listTokens atoms ++ [.closing])
  | [], read, ho, hc => ⟨by simp [takes, ho, hc], trivial⟩
  | [a], read, ho, hc => ⟨by simp [takes], by simp [takes, ho, hc], trivial⟩
  | a :: b :: atoms, read, ho, hc =>
    ⟨by simp [takes], by simp [takes],
      taken_listTokens (b :: atoms) _ (by simp [ho]) (by simp [hc])⟩

end Sql

namespace Statement

theorem shows_column (c : Column) : Shows [.text c.sql] [.atom (.ofColumn c)] :=
  .text fun _ => lexes_column c

theorem shows_keyword (keyword : Keyword) : Shows [.text keyword.text] [.keyword keyword] :=
  .text fun _ => lexes_keyword keyword

theorem shows_term (term : Term) : Shows term.statement [.atom term.atom] := by
  cases term with
  | value v => exact .parameter v
  | column c => exact shows_column c

theorem shows_list (first : Value) : ∀ values : List Value,
    Shows (separated ", " ((first :: values).map fun value => [.parameter value]))
      (listTokens ((first :: values).map .value))
  | [] => .parameter first
  | next :: values => (Shows.parameter first).append_comma (shows_list next values)

/-- A statement is the test that its tokens are, however it is cut into pieces. -/
theorem isOperand_of_shows {s t : Statement} {ts : List Token} {l : Leaf} (h : s.Shows ts)
    (hvalues : s.values = t.values) (hsql : ∀ n, sqlFrom n s = sqlFrom n t)
    (htaken : Level.Taken [] ts) (hread : Operand.formula (.tokens ts) = some (.leaf l)) :
    t.IsOperand (.leaf l) :=
  ⟨ts, h.congr hvalues hsql, Level.readsOperand_of_taken htaken hread⟩

end Statement

namespace Test

open Statement

/-- A comparison is read back, also the one that is written with words. -/
theorem isOperand_compare (c : Column) (comparator : Comparator) (term : Term) :
    (compare c comparator term).statement.IsOperand (.leaf (compare c comparator term).leaf) := by
  have hcomparator : Shows [.text comparator.symbol] (Token.ofComparator comparator) :=
    .text fun _ => lexes_comparator comparator
  refine isOperand_of_shows
    ((shows_column c).append_blank (hcomparator.append_blank (shows_term term))) ?_ ?_ ?_ ?_
  · cases term <;> simp [statement, Term.statement, values]
  · intro n
    cases term <;> simp [statement, Term.statement, sqlFrom, String.append_assoc]
  · cases comparator <;> simp [Token.ofComparator, Level.Taken, takes]
  · cases comparator <;> rfl

theorem isOperand_isIn (c : Column) (first : Value) (values : List Value) :
    (isIn c (first :: values)).statement.IsOperand (.leaf (isIn c (first :: values)).leaf) := by
  refine isOperand_of_shows
    ((shows_column c).append_blank ((shows_keyword .isIn).append_blank
      (shows_list first values).parens)) ?_ ?_ ?_ ?_
  · simp [statement, Statement.values]
  · intro n
    simp [← String.toList_inj, statement, sqlFrom, Keyword.text]
  · refine ⟨by simp [takes], by simp [takes], by simp [takes], ?_⟩
    exact taken_listTokens _ _ (by simp) (by simp)
  · have hread := readList_listTokens (.value first) (values.map .value)
    simpa [Operand.formula, Leaf.read, leaf] using hread

/-- A test is read back wherever an operand may stand. -/
theorem isOperand_statement : ∀ t : Test, t.statement.IsOperand (.leaf t.leaf)
  | .compare c comparator term => isOperand_compare c comparator term
  | .like c pattern => by
    refine isOperand_of_shows ((shows_column c).append_blank
      ((shows_keyword .like).append_blank (.parameter (.string pattern)))) ?_ ?_ ?_ rfl
    · simp [statement, values]
    · simp [← String.toList_inj, statement, sqlFrom, Keyword.text]
    · simp [Level.Taken, takes]
  | .between c low high => by
    refine isOperand_of_shows ((shows_column c).append_blank ((shows_keyword .between).append_blank
      ((Shows.parameter low).append_blank ((shows_keyword .and).append_blank
        (.parameter high))))) ?_ ?_ ?_ rfl
    · simp [statement, values]
    · simp [← String.toList_inj, statement, sqlFrom, Keyword.text]
    · simp [Level.Taken, takes]
  | .isIn _ [] => by
    refine isOperand_of_shows ((Shows.parameter _).append_blank
      ((Shows.text fun _ => lexes_comparator .eq).append_blank (.parameter _))) ?_ ?_ ?_ rfl
    · simp [statement, values]
    · simp [← String.toList_inj, statement, sqlFrom, Comparator.symbol]
    · simp [Level.Taken, takes, Token.ofComparator]
  | .isIn c (first :: values) => isOperand_isIn c first values
  | .isNull c => by
    refine isOperand_of_shows ((shows_column c).append_blank ((shows_keyword .is).append_blank
      (shows_keyword .null))) ?_ ?_ ?_ rfl
    · simp [statement, values]
    · simp [statement, sqlFrom, Keyword.text]
    · simp [Level.Taken, takes]
  | .isNotNull c => by
    refine isOperand_of_shows ((shows_column c).append_blank ((shows_keyword .is).append_blank
      ((shows_keyword .not).append_blank (shows_keyword .null)))) ?_ ?_ ?_ rfl
    · simp [statement, values]
    · simp [statement, sqlFrom, Keyword.text]
    · simp [Level.Taken, takes]

end Test

/-! ## Conditions -/

namespace Condition

/-- The formula has the structure of the condition, which holds no search. -/
inductive Denotes : Condition → Formula → Prop
  | test (t : Test) : Denotes (.test t) (.leaf t.leaf)
  | constant (value : Bool) : Denotes (.constant value) (.constant value)
  | join (combinator : Combinator) {left right : Condition} {f g : Formula} :
    Denotes left f → Denotes right g →
      Denotes (.join combinator left right) (.join combinator f g)

theorem isOperand_constant (value : Bool) :
    (Condition.constant value).statement.IsOperand (.constant value) := by
  cases value with
  | true =>
    have htaken : Level.Taken [] [.keyword .true] := by simp [Level.Taken, takes]
    exact ⟨_, Statement.shows_keyword .true, Level.readsOperand_of_taken htaken rfl⟩
  | false =>
    have htaken : Level.Taken [] [.keyword .false] := by simp [Level.Taken, takes]
    exact ⟨_, Statement.shows_keyword .false, Level.readsOperand_of_taken htaken rfl⟩

/-- How a condition is read by itself and on either side of another, in the parentheses that it
has there. -/
structure Reads (c : Condition) (f : Formula) : Prop where
  alone : c.statement.IsFormula f
  right : (wrap c.isWrapped c.statement).IsOperand f
  leftOfAnd : (wrap (c.isWrappedLeft .and) c.statement).IsConjunction f
  leftOfOr : (wrap (c.isWrappedLeft .or) c.statement).IsFormula f

/-- An operand may be in parentheses or not. -/
theorem isOperand_wrap {s : Statement} {f : Formula} (h : s.IsOperand f) :
    ∀ wrapped : Bool, (wrap wrapped s).IsOperand f
  | true => h.conjunction.formula.wrap
  | false => h

theorem Reads.of_isOperand {c : Condition} {f : Formula} (h : c.statement.IsOperand f) :
    Reads c f where
  alone := h.conjunction.formula
  right := isOperand_wrap h _
  leftOfAnd := (isOperand_wrap h _).conjunction
  leftOfOr := (isOperand_wrap h _).conjunction.formula

/-- Each connective leaves out the parentheses that it does not need. -/
theorem Reads.join {left right : Condition} {f g : Formula} (hleft : Reads left f)
    (hright : Reads right g) :
    ∀ combinator, Reads (.join combinator left right) (.join combinator f g)
  | .and => by
    have h := hleft.leftOfAnd.and hright.right
    exact ⟨h.formula, h.formula.wrap, h, h.formula.wrap.conjunction.formula⟩
  | .or => by
    have h := hleft.leftOfOr.or hright.right.conjunction
    exact ⟨h, h.wrap, h.wrap.conjunction, h⟩

theorem Denotes.reads {c : Condition} {f : Formula} (h : c.Denotes f) : c.Reads f := by
  induction h with
  | test t => exact .of_isOperand t.isOperand_statement
  | constant value => exact .of_isOperand (isOperand_constant value)
  | join combinator _ _ hleft hright => exact hleft.join hright combinator

/-- The SQL of a condition is read back as the formula of the same structure. -/
theorem Denotes.read {c : Condition} {f : Formula} (h : c.Denotes f) :
    Formula.read c.statement.values c.statement.sql = some f :=
  h.reads.alone.read

theorem Denotes.foldl (combinator : Combinator) {conditions : List Condition}
    {formulas : List Formula} (h : List.Forall₂ Denotes conditions formulas) :
    ∀ {first : Condition} {f : Formula}, first.Denotes f →
      Denotes (conditions.foldl (.join combinator) first)
        (formulas.foldl (.join combinator) f) := by
  induction h with
  | nil => exact id
  | cons hnext _ ih => exact fun hfirst => ih (.join combinator hfirst hnext)

theorem Denotes.joinAll (combinator : Combinator) {conditions : List Condition}
    {formulas : List Formula} (h : List.Forall₂ Denotes conditions formulas) :
    (Condition.joinAll combinator conditions).Denotes (Formula.joinAll combinator formulas) := by
  cases h with
  | nil => cases combinator <;> exact .constant _
  | cons hfirst hrest => exact .foldl combinator hrest hfirst

end Condition

end HybridQuery
