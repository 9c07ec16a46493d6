import HybridQuery.Proofs.SqlTokens
import HybridQuery.Proofs.Truth

/-!
# Reading a condition of SQL

SQL reads `AND` before `OR`, both after every test, and parentheses before all. `Sql.parse` reads
tokens so in one pass. It keeps, for each pair of parentheses that is open, the disjunction and
the conjunction so far and the operand at hand (`Sql.Level`). The `AND` behind the lower bound of a
range and the parentheses of a list are parts of a test.

What is read depends on how tightly the tokens hang together. Some are an operand wherever they
stand (`Sql.Level.ReadsOperand`), some are a conjunction as long as they stand at the beginning of
one, some need to be in parentheses to be read as one formula. Joining two formulas, and putting
one into parentheses, leads from one of the three to another.
-/

namespace HybridQuery

namespace Sql

/-- A test that holds no other test. -/
inductive Leaf where
  | compare (left : Atom) (comparator : Comparator) (right : Atom)
  | like (subject pattern : Atom)
  | between (subject low high : Atom)
  | isIn (subject : Atom) (values : List Atom)
  | isNull (subject : Atom)
  | isNotNull (subject : Atom)
  deriving DecidableEq, Repr

inductive Formula where
  | leaf (leaf : Leaf)
  | constant (value : Bool)
  | join (combinator : Combinator) (left right : Formula)
  deriving DecidableEq, Repr

/-! ## Tests -/

/-- The list of a test, from behind its opening parenthesis. -/
def readList : List Token → Option (List Atom)
  | [.atom a, .closing] => some [a]
  | .atom a :: .comma :: rest => (readList rest).map (a :: ·)
  | _ => none

/-- The test that tokens are. -/
def Leaf.read : List Token → Option Leaf
  | [.atom a, .sign comparator, .atom b] => some (.compare a comparator b)
  | [.atom a, .keyword .is, .keyword .distinct, .keyword .from, .atom b] =>
    some (.compare a .distinct b)
  | [.atom a, .keyword .like, .atom b] => some (.like a b)
  | [.atom a, .keyword .between, .atom low, .keyword .and, .atom high] =>
    some (.between a low high)
  | [.atom a, .keyword .is, .keyword .null] => some (.isNull a)
  | [.atom a, .keyword .is, .keyword .not, .keyword .null] => some (.isNotNull a)
  | .atom a :: .keyword .isIn :: .opening :: rest => (readList rest).map (.isIn a)
  | _ => none

/-- The token is part of the test that the tokens in front of it begin. -/
def takes : List Token → Token → Bool
  | [.atom _, .keyword .between, .atom _], .keyword .and => true
  | _, .keyword .and => false
  | _, .keyword .or => false
  | [.atom _, .keyword .isIn], .opening => true
  | _, .opening => false
  | read, .closing => read.contains .opening && !read.contains .closing
  | _, _ => true

/-- What `AND` and `OR` join. -/
inductive Operand where
  /-- The tokens of a test or a constant, as far as they are read. -/
  | tokens (read : List Token)
  /-- A pair of parentheses that is closed. -/
  | group (formula : Formula)
  deriving DecidableEq, Repr

namespace Operand

/-- The operand with one more token, if that is part of it. -/
def take? : Operand → Token → Option Operand
  | .tokens read, token => if takes read token then some (.tokens (read ++ [token])) else none
  | .group _, _ => none

/-- The operand, if it is complete. -/
def formula : Operand → Option Formula
  | .tokens [.keyword .true] => some (.constant true)
  | .tokens [.keyword .false] => some (.constant false)
  | .tokens read => (Leaf.read read).map .leaf
  | .group formula => some formula

end Operand

/-! ## Formulas -/

/-- A formula behind what it is joined to, if there is anything. -/
def joined (combinator : Combinator) : Option Formula → Formula → Formula
  | none, right => right
  | some left, right => .join combinator left right

/-- What is read inside one pair of parentheses. -/
structure Level where
  /-- What stands in front of the last `OR`. -/
  disjunction : Option Formula := none
  /-- What stands behind it, in front of the last `AND`. -/
  conjunction : Option Formula := none
  /-- What stands behind both. -/
  operand : Operand := .tokens []
  deriving DecidableEq, Repr

namespace Level

/-- The conjunction at the end. -/
def conjoined (l : Level) : Option Formula :=
  l.operand.formula.map (joined .and l.conjunction)

/-- All that is read. -/
def formula (l : Level) : Option Formula :=
  l.conjoined.map (joined .or l.disjunction)

/-- A token that is not part of a test. -/
def connect (l : Level) (outer : List Level) : Token → Option (Level × List Level)
  | .keyword .and => l.conjoined.map fun f => (⟨l.disjunction, some f, .tokens []⟩, outer)
  | .keyword .or => l.formula.map fun f => (⟨some f, none, .tokens []⟩, outer)
  | .opening => if l.operand = .tokens [] then some ({}, l :: outer) else none
  | .closing =>
    match outer with
    | [] => none
    | around :: outer => l.formula.map fun f => ({ around with operand := .group f }, outer)
  | _ => none

/-- One more token, at a level and with the levels around it. -/
def step : Level × List Level → Token → Option (Level × List Level)
  | (l, outer), token =>
    match l.operand.take? token with
    | some operand => some ({ l with operand }, outer)
    | none => l.connect outer token

/-- Tokens one after another. -/
def run (state : Level × List Level) (tokens : List Token) : Option (Level × List Level) :=
  tokens.foldlM step state

end Level

/-- The formula that tokens are. -/
def parse (tokens : List Token) : Option Formula :=
  match Level.run ({}, []) tokens with
  | some (l, []) => l.formula
  | _ => none

/-- The formula of a text, given the values that are bound to its parameters. -/
def Formula.read (values : List Value) (sql : String) : Option Formula :=
  (lex values .blank sql.toList).bind parse

/-! ## Complete operands -/

/-- A list is read up to its closing parenthesis. -/
theorem closing_mem_of_readList {tokens : List Token} {atoms : List Atom}
    (h : readList tokens = some atoms) : Token.closing ∈ tokens := by
  fun_induction readList tokens generalizing atoms with
  | case1 a => simp
  | case2 a rest ih =>
    obtain ⟨others, hothers, -⟩ := Option.map_eq_some_iff.mp h
    simp [ih hothers]
  | case3 => cases h

/-- A test takes no connective, and no closing parenthesis but that of its list. -/
theorem takes_of_read {read : List Token} {leaf : Leaf} (h : Leaf.read read = some leaf) :
    ∀ token ∈ [.keyword .and, .keyword .or, .closing], takes read token = false := by
  unfold Leaf.read at h
  split at h
  case h_7 =>
    obtain ⟨atoms, hatoms, -⟩ := Option.map_eq_some_iff.mp h
    simp [takes, closing_mem_of_readList hatoms]
  case h_8 => cases h
  all_goals simp [takes]

theorem Operand.take?_of_formula {operand : Operand} {f : Formula}
    (h : operand.formula = some f) :
    ∀ token ∈ [.keyword .and, .keyword .or, .closing], operand.take? token = none := by
  intro token htoken
  unfold formula at h
  split at h
  case h_3 read _ _ =>
    obtain ⟨leaf, hleaf, -⟩ := Option.map_eq_some_iff.mp h
    rw [take?, takes_of_read hleaf token htoken]
    rfl
  case h_4 => rfl
  all_goals
    revert token
    decide

namespace Level

theorem run_append (state : Level × List Level) (ts us : List Token) :
    run state (ts ++ us) = (run state ts).bind (run · us) :=
  List.foldlM_append ..

theorem run_append_of {state state' : Level × List Level} {ts us : List Token}
    (h : run state ts = some state') : run state (ts ++ us) = run state' us := by
  rw [run_append, h, Option.bind_some]

theorem run_cons_of {state state' : Level × List Level} {t : Token} {ts : List Token}
    (h : step state t = some state') : run state (t :: ts) = run state' ts := by
  rw [run, List.foldlM_cons, h]
  rfl

/-- Each token is part of the test that those in front of it begin. -/
def Taken : List Token → List Token → Prop
  | _, [] => True
  | read, t :: ts => takes read t = true ∧ Taken (read ++ [t]) ts

theorem run_of_taken {disjunction conjunction : Option Formula} (outer : List Level) :
    ∀ {read ts : List Token}, Taken read ts →
      run (⟨disjunction, conjunction, .tokens read⟩, outer) ts =
        some (⟨disjunction, conjunction, .tokens (read ++ ts)⟩, outer)
  | read, [], _ => by
    rw [List.append_nil]
    rfl
  | read, t :: ts, h => by
    have hstep : step (⟨disjunction, conjunction, .tokens read⟩, outer) t =
        some (⟨disjunction, conjunction, .tokens (read ++ [t])⟩, outer) := by
      simp [step, Operand.take?, h.1]
    rw [run_cons_of hstep, run_of_taken outer h.2, List.append_assoc]
    rfl

/-- The tokens are this operand wherever one may stand. -/
def ReadsOperand (ts : List Token) (f : Formula) : Prop :=
  ∀ disjunction conjunction outer, ∃ operand : Operand,
    run (⟨disjunction, conjunction, .tokens []⟩, outer) ts =
        some (⟨disjunction, conjunction, operand⟩, outer) ∧
      operand.formula = some f

/-- The tokens are this conjunction, wherever one may stand. -/
def ReadsConjunction (ts : List Token) (f : Formula) : Prop :=
  ∀ disjunction outer, ∃ l : Level,
    run (⟨disjunction, none, .tokens []⟩, outer) ts = some (l, outer) ∧
      l.disjunction = disjunction ∧ l.conjoined = some f

/-- The tokens are this formula between parentheses. -/
def ReadsFormula (ts : List Token) (f : Formula) : Prop :=
  ∀ outer, ∃ l : Level, run ({}, outer) ts = some (l, outer) ∧ l.formula = some f

variable {ts us : List Token} {f g : Formula}

theorem readsOperand_of_taken (h : Taken [] ts) (hf : Operand.formula (.tokens ts) = some f) :
    ReadsOperand ts f := by
  intro disjunction conjunction outer
  exact ⟨.tokens ts, run_of_taken outer h, hf⟩

theorem ReadsOperand.conjunction (h : ReadsOperand ts f) : ReadsConjunction ts f := by
  intro disjunction outer
  obtain ⟨operand, hrun, hf⟩ := h disjunction none outer
  exact ⟨⟨disjunction, none, operand⟩, hrun, rfl, by rw [conjoined, hf]; rfl⟩

theorem ReadsConjunction.formula (h : ReadsConjunction ts f) : ReadsFormula ts f := by
  intro outer
  obtain ⟨l, hrun, hdisjunction, hf⟩ := h none outer
  exact ⟨l, hrun, by rw [Level.formula, hf, hdisjunction]; rfl⟩

/-- A complete operand is followed by a connective or a closing parenthesis. -/
theorem step_of_conjoined {l : Level} (h : l.conjoined = some f) (outer : List Level) :
    ∀ token ∈ [.keyword .and, .keyword .or, .closing],
      step (l, outer) token = l.connect outer token := by
  intro token htoken
  obtain ⟨g, hg, -⟩ := Option.map_eq_some_iff.mp h
  rw [step, Operand.take?_of_formula hg token htoken]

/-- Parentheses hold a formula together. -/
theorem ReadsFormula.parens (h : ReadsFormula ts f) :
    ReadsOperand (.opening :: ts ++ [.closing]) f := by
  intro disjunction conjunction outer
  obtain ⟨l, hrun, hf⟩ := h (⟨disjunction, conjunction, .tokens []⟩ :: outer)
  obtain ⟨g, hg, -⟩ := Option.map_eq_some_iff.mp hf
  have hstep : step (l, ⟨disjunction, conjunction, .tokens []⟩ :: outer) .closing =
      some (⟨disjunction, conjunction, .group f⟩, outer) := by
    rw [step_of_conjoined hg _ _ (by simp)]
    simp [connect, hf]
  refine ⟨.group f, ?_, rfl⟩
  rw [List.cons_append, run_cons_of rfl, run_append_of hrun, run_cons_of hstep]
  rfl

theorem ReadsConjunction.and (h : ReadsConjunction ts f) (h' : ReadsOperand us g) :
    ReadsConjunction (ts ++ .keyword .and :: us) (.join .and f g) := by
  intro disjunction outer
  obtain ⟨l, hrun, hdisjunction, hf⟩ := h disjunction outer
  obtain ⟨operand, hrun', hg⟩ := h' disjunction (some f) outer
  have hstep : step (l, outer) (.keyword .and) =
      some (⟨disjunction, some f, .tokens []⟩, outer) := by
    rw [step_of_conjoined hf _ _ (by simp)]
    simp [connect, hf, hdisjunction]
  refine ⟨⟨disjunction, some f, operand⟩, ?_, rfl, ?_⟩
  · rw [run_append_of hrun, run_cons_of hstep, hrun']
  · rw [conjoined, hg]
    rfl

theorem ReadsFormula.or (h : ReadsFormula ts f) (h' : ReadsConjunction us g) :
    ReadsFormula (ts ++ .keyword .or :: us) (.join .or f g) := by
  intro outer
  obtain ⟨l, hrun, hf⟩ := h outer
  obtain ⟨l', hrun', hdisjunction, hg⟩ := h' (some f) outer
  obtain ⟨c, hc, -⟩ := Option.map_eq_some_iff.mp hf
  have hstep : step (l, outer) (.keyword .or) = some (⟨some f, none, .tokens []⟩, outer) := by
    rw [step_of_conjoined hc _ _ (by simp)]
    simp [connect, hf]
  refine ⟨l', ?_, ?_⟩
  · rw [run_append_of hrun, run_cons_of hstep, hrun']
  · rw [Level.formula, hg, hdisjunction]
    rfl

/-- A formula that stands by itself is read. -/
theorem ReadsFormula.parse (h : ReadsFormula ts f) : Sql.parse ts = some f := by
  obtain ⟨l, hrun, hf⟩ := h []
  rw [Sql.parse, hrun]
  exact hf

end Level

end Sql

end HybridQuery
