import HybridQuery.Relational.Statement
import Mathlib.Data.List.Basic
import Mathlib.Tactic.Common

/-!
# The tokens of a condition in SQL

The text of a condition consists of columns, parameters, keywords, signs and punctuation. `Sql.lex`
reads them in one pass over the text, where a parameter counts as the value that is bound to it. A
quoted name ends at the first quote that is not doubled, everything else ends where another kind of
character begins.

A text is read in the same way wherever it stands, as long as a blank, a comma or a closing
parenthesis follows it (`Sql.Lexes`). A statement is so whatever parameters are numbered before it
(`Statement.Shows`), which is how the tokens of a statement come from those of its parts.
-/

namespace HybridQuery

namespace Sql

/-- The smallest part of a condition. SQL knows a column by the name of its table and its own. -/
inductive Atom where
  | column (table name : String)
  | value (value : Value)
  deriving DecidableEq, Repr

inductive Keyword where
  | and
  | or
  | is
  | not
  | null
  | distinct
  | from
  | like
  | between
  | isIn
  | true
  | false
  deriving DecidableEq, Repr

namespace Keyword

def all : List Keyword :=
  [.and, .or, .is, .not, .null, .distinct, .from, .like, .between, .isIn, .true, .false]

def text : Keyword → String
  | .and => "AND"
  | .or => "OR"
  | .is => "IS"
  | .not => "NOT"
  | .null => "NULL"
  | .distinct => "DISTINCT"
  | .from => "FROM"
  | .like => "LIKE"
  | .between => "BETWEEN"
  | .isIn => "IN"
  | .true => "TRUE"
  | .false => "FALSE"

end Keyword

inductive Token where
  | atom (atom : Atom)
  | keyword (keyword : Keyword)
  /-- A comparison that is written with signs. -/
  | sign (comparator : Comparator)
  | opening
  | closing
  | comma
  deriving DecidableEq, Repr

/-- What SQL knows of a column. -/
def Atom.ofColumn (c : Column) : Atom :=
  .column c.table c.name

def Token.ofComparator : Comparator → List Token
  | .distinct => [.keyword .is, .keyword .distinct, .keyword .from]
  | comparator => [.sign comparator]

/-! ## The reader -/

/-- The token at hand, with what is read of it, in reverse. -/
inductive Mode where
  | blank
  /-- Inside the quotes of a name, which the name of a table may stand in front of. -/
  | quoted (table : Option (List Char)) (read : List Char)
  /-- Behind a quote in a name. It ends the name unless another one follows. -/
  | quote (table : Option (List Char)) (read : List Char)
  /-- Behind the dot that follows the name of a table. -/
  | dot (table : List Char)
  | parameter (number : Nat)
  | keyword (read : List Char)
  | sign (read : List Char)
  deriving DecidableEq, Repr

/-- The comparator that is written with these signs. -/
def comparator? : List Char → Option Comparator
  | ['='] => some .eq
  | ['<', '>'] => some .ne
  | ['>'] => some .gt
  | ['>', '='] => some .gte
  | ['<'] => some .lt
  | ['<', '='] => some .lte
  | _ => none

def isSign (c : Char) : Bool :=
  ['=', '<', '>'].contains c

namespace Mode

/-- The mode behind a character that belongs to the token at hand. -/
def next? : Mode → Char → Option Mode
  | .blank, _ => none
  | .quoted table read, c =>
    if c = '"' then some (.quote table read) else some (.quoted table (c :: read))
  | .quote table read, c =>
    if c = '"' then some (.quoted table ('"' :: read))
    else if c = '.' ∧ table = none then some (.dot read) else none
  | .dot table, c => if c = '"' then some (.quoted (some table) []) else none
  | .parameter n, c =>
    if c.isDigit then some (.parameter (10 * n + (c.toNat - '0'.toNat))) else none
  | .keyword read, c => if c.isAlpha then some (.keyword (c :: read)) else none
  | .sign read, c => if isSign c then some (.sign (c :: read)) else none

/-- The token at hand when it ends here. Parameters are numbered from one. -/
def token? (values : List Value) : Mode → Option (List Token)
  | .blank => some []
  | .quoted _ _ => none
  | .quote none _ => none
  | .quote (some table) read =>
    some [.atom (.column (String.ofList table.reverse) (String.ofList read.reverse))]
  | .dot _ => none
  | .parameter 0 => none
  | .parameter (n + 1) => values[n]?.map fun value => [.atom (.value value)]
  | .keyword read => (Keyword.all.find? (·.text.toList = read.reverse)).map fun k => [.keyword k]
  | .sign read => (comparator? read.reverse).map fun comparator => [.sign comparator]

end Mode

/-- What a character begins: a token of its own, or one to be read. -/
def begin? (c : Char) : Option (List Token × Mode) :=
  match c with
  | ' ' => some ([], .blank)
  | '(' => some ([.opening], .blank)
  | ')' => some ([.closing], .blank)
  | ',' => some ([.comma], .blank)
  | '"' => some ([], .quoted none [])
  | '$' => some ([], .parameter 0)
  | c =>
    if c.isAlpha then some ([], .keyword [c])
    else if isSign c then some ([], .sign [c]) else none

/-- The tokens of a text, given the values that are bound to its parameters. -/
def lex (values : List Value) : Mode → List Char → Option (List Token)
  | mode, [] => mode.token? values
  | mode, c :: rest =>
    match mode.next? c with
    | some mode => lex values mode rest
    | none => (mode.token? values).bind fun ended => (begin? c).bind fun (begun, mode) =>
      (lex values mode rest).map (ended ++ begun ++ ·)

/-! ## Texts by themselves -/

/-- Nothing follows, or something that ends every token. -/
def Delimited (rest : List Char) : Prop :=
  ∀ c ∈ rest.head?, c ∈ [' ', ',', ')']

/-- The text is read as these tokens wherever it stands. -/
def Lexes (values : List Value) (text : List Char) (tokens : List Token) : Prop :=
  ∀ rest, Delimited rest →
    lex values .blank (text ++ rest) = (lex values .blank rest).map (tokens ++ ·)

variable {values : List Value}

theorem lex_of_next? {m n : Mode} {c : Char} (h : m.next? c = some n) (rest : List Char) :
    lex values m (c :: rest) = lex values n rest := by
  rw [lex, h]

/-- The token at hand ends in front of a character that does not belong to it. -/
theorem lex_of_next?_none {mode : Mode} {c : Char} {tokens : List Token}
    (h : mode.next? c = none) (htoken : mode.token? values = some tokens) (rest : List Char) :
    lex values mode (c :: rest) = (begin? c).bind fun (begun, mode') =>
      (lex values mode' rest).map (tokens ++ begun ++ ·) := by
  rw [lex, h]
  simp only [htoken, Option.bind_some]

/-- A character that begins a token of several. -/
theorem lex_of_begin? {m : Mode} {c : Char} (h : begin? c = some ([], m)) (rest : List Char) :
    lex values .blank (c :: rest) = lex values m rest := by
  rw [lex_of_next?_none rfl rfl, h]
  simp

/-- What ends a token is read as if it stood at the beginning. -/
theorem lex_of_token? {mode : Mode} {tokens : List Token} {rest : List Char}
    (hrest : Delimited rest) (hnext : ∀ c ∈ [' ', ',', ')'], mode.next? c = none)
    (htoken : mode.token? values = some tokens) :
    lex values mode rest = (lex values .blank rest).map (tokens ++ ·) := by
  cases rest with
  | nil => rw [lex, htoken, lex, Mode.token?, Option.map_some, List.append_nil]
  | cons c rest =>
    rw [lex_of_next?_none (hnext c (hrest c rfl)) htoken, lex_of_next?_none rfl rfl]
    cases begin? c with
    | none => rfl
    | some begun => simp [Function.comp_def]

/-- A text that leads to the end of a token is read as that token. -/
theorem lexes_of_mode {text : List Char} (mode : Mode) {tokens : List Token}
    (hrun : ∀ rest, lex values .blank (text ++ rest) = lex values mode rest)
    (hnext : ∀ c ∈ [' ', ',', ')'], mode.next? c = none)
    (htoken : mode.token? values = some tokens) : Lexes values text tokens :=
  fun rest hrest => (hrun rest).trans (lex_of_token? hrest hnext htoken)

namespace Lexes

theorem nil : Lexes values [] [] := by
  intro rest _
  simp

theorem append {s t : List Char} {ts us : List Token} (hs : Lexes values s ts)
    (ht : Lexes values t us) (hd : ∀ rest, Delimited rest → Delimited (t ++ rest)) :
    Lexes values (s ++ t) (ts ++ us) := by
  intro rest hrest
  rw [List.append_assoc, hs _ (hd rest hrest), ht rest hrest]
  simp [Function.comp_def]

/-- A character that is a token by itself, or none, in front of a text. -/
theorem cons (c : Char) (begun : List Token) {ts : List Token} {text : List Char}
    (hc : begin? c = some (begun, .blank)) (h : Lexes values text ts) :
    Lexes values (c :: text) (begun ++ ts) := by
  intro rest hrest
  rw [List.cons_append, lex_of_next?_none rfl rfl, hc, Option.bind_some]
  simp [h rest hrest, Function.comp_def]

theorem blank {text : List Char} {ts : List Token} (h : Lexes values text ts) :
    Lexes values (' ' :: text) ts :=
  cons ' ' [] rfl h

theorem opening {text : List Char} {ts : List Token} (h : Lexes values text ts) :
    Lexes values ('(' :: text) (.opening :: ts) :=
  cons '(' [.opening] rfl h

theorem closing : Lexes values [')'] [.closing] :=
  cons ')' [.closing] rfl nil

theorem comma {text : List Char} {ts : List Token} (h : Lexes values text ts) :
    Lexes values (',' :: text) (.comma :: ts) :=
  cons ',' [.comma] rfl h

/-- A text behind a blank. -/
theorem append_blank {s t : List Char} {ts us : List Token} (hs : Lexes values s ts)
    (ht : Lexes values t us) : Lexes values (s ++ ' ' :: t) (ts ++ us) :=
  hs.append ht.blank fun _ _ _ hc => by
    cases hc
    decide

theorem append_closing {s : List Char} {ts : List Token} (hs : Lexes values s ts) :
    Lexes values (s ++ [')']) (ts ++ [.closing]) :=
  hs.append closing fun _ _ _ hc => by
    cases hc
    decide

theorem append_comma {s t : List Char} {ts us : List Token} (hs : Lexes values s ts)
    (ht : Lexes values t us) : Lexes values (s ++ ',' :: ' ' :: t) (ts ++ .comma :: us) :=
  hs.append ht.blank.comma fun _ _ _ hc => by
    cases hc
    decide

end Lexes

/-! ## Columns, parameters, keywords and signs -/

theorem lexes_keyword (keyword : Keyword) :
    Lexes values keyword.text.toList [.keyword keyword] := by
  refine lexes_of_mode (.keyword keyword.text.toList.reverse) (fun rest => ?_) ?_ ?_
  · cases keyword <;> simp [Keyword.text] <;> exact (lex_of_begin? (by rfl) _).trans (by rfl)
  · simp [Mode.next?]
  · cases keyword <;> simp [Keyword.text] <;> rfl

theorem lexes_sign {comparator : Comparator} (h : comparator ≠ .distinct) :
    Lexes values comparator.symbol.toList [.sign comparator] := by
  refine lexes_of_mode (.sign comparator.symbol.toList.reverse) (fun rest => ?_) ?_ ?_
  · cases comparator <;> simp [Comparator.symbol] at h ⊢ <;>
      exact (lex_of_begin? (by rfl) _).trans (by rfl)
  · simp [Mode.next?, isSign]
  · cases comparator <;> simp [Comparator.symbol] at h ⊢ <;> rfl

theorem lexes_comparator (comparator : Comparator) :
    Lexes values comparator.symbol.toList (Token.ofComparator comparator) := by
  cases comparator with
  | distinct =>
    have h : Lexes values _ _ := (lexes_keyword .is).append_blank
      ((lexes_keyword .distinct).append_blank (lexes_keyword .from))
    simpa [Comparator.symbol, Keyword.text, Token.ofComparator] using h
  | _ => exact lexes_sign (by decide)

/-- Inside the quotes every doubled quote is one, and everything else stands for itself. -/
theorem lex_doubleAll (table : Option (List Char)) (rest : List Char) :
    ∀ text read : List Char, lex values (.quoted table read) (doubleAll '"' text ++ rest) =
      lex values (.quoted table (text.reverse ++ read)) rest
  | [], _ => rfl
  | c :: text, read => by
    have ih := lex_doubleAll table rest text (c :: read)
    by_cases hc : c = '"'
    · subst hc
      rw [doubleAll_cons_self, List.cons_append, List.cons_append,
        lex_of_next? (n := .quote table read) rfl, lex_of_next? rfl, ih, List.reverse_cons,
        List.append_assoc]
      rfl
    · rw [doubleAll_cons_of_ne hc, List.cons_append, lex_of_next? (by exact if_neg hc), ih,
        List.reverse_cons, List.append_assoc]
      rfl

theorem lexes_column (c : Column) : Lexes values c.sql.toList [.atom (.ofColumn c)] := by
  refine lexes_of_mode (.quote (some c.table.toList.reverse) c.name.toList.reverse)
    (fun rest => ?_) ?_ ?_
  · have htext : c.sql.toList ++ rest = '"' :: (doubleAll '"' c.table.toList ++
        '"' :: '.' :: '"' :: (doubleAll '"' c.name.toList ++ '"' :: rest)) := by
      simp [Column.sql, identifier]
    rw [htext, lex_of_begin? (m := .quoted none []) rfl, lex_doubleAll, List.append_nil,
      lex_of_next? (n := .quote none c.table.toList.reverse) rfl, lex_of_next? rfl,
      lex_of_next? rfl, lex_doubleAll, List.append_nil, lex_of_next? rfl]
  · simp [Mode.next?]
  · simp [Mode.token?, Atom.ofColumn]

theorem lex_digits (rest : List Char) : ∀ (digits : List Char) (n : Nat),
    (∀ c ∈ digits, c.isDigit = true) → lex values (.parameter n) (digits ++ rest) =
      lex values (.parameter (Nat.ofDigitChars 10 digits n)) rest
  | [], _, _ => rfl
  | c :: digits, n, h => by
    have hc : c.isDigit = true := h c List.mem_cons_self
    rw [List.cons_append, lex_of_next? (by exact if_pos hc),
      lex_digits rest digits _ fun d hd => h d (List.mem_cons_of_mem c hd)]
    rfl

/-- A parameter is read as the value that is bound to it. -/
theorem lexes_parameter (before : List Value) (value : Value) (after : List Value) :
    Lexes (before ++ value :: after) ("$" ++ naturalText (before.length + 1)).toList
      [.atom (.value value)] := by
  refine lexes_of_mode (.parameter (before.length + 1)) (fun rest => ?_) ?_ ?_
  · have hdigits : ∀ c ∈ digitsOf (before.length + 1), c.isDigit = true :=
      fun c hc => Nat.isDigit_of_mem_toDigits (by decide) (by decide) hc
    have htext : ("$" ++ naturalText (before.length + 1)).toList ++ rest =
        '$' :: (digitsOf (before.length + 1) ++ rest) := by
      simp [naturalText]
    rw [htext, lex_of_begin? (m := .parameter 0) rfl, lex_digits rest _ 0 hdigits, digitsOf,
      Nat.ofDigitChars_toDigits (by decide) (by decide)]
  · simp [Mode.next?]
  · simp [Mode.token?]

end Sql

/-! ## Statements -/

namespace Statement

open Sql

/-- The statement is read as these tokens, whatever parameters come before and after it. -/
def Shows (s : Statement) (tokens : List Token) : Prop :=
  ∀ before after, Lexes (before ++ s.values ++ after) (sqlFrom (before.length + 1) s).toList tokens

namespace Shows

variable {s t : Statement} {ts us : List Token}

/-- How a statement is cut into pieces makes no difference. -/
theorem congr (h : Shows s ts) (hvalues : s.values = t.values)
    (hsql : ∀ n, sqlFrom n s = sqlFrom n t) : Shows t ts := by
  intro before after
  rw [← hvalues, ← hsql]
  exact h before after

theorem text {sql : String} (h : ∀ values, Lexes values sql.toList ts) :
    Shows [.text sql] ts := by
  intro before after
  simpa [sqlFrom] using h _

theorem parameter (value : Value) : Shows [.parameter value] [.atom (.value value)] := by
  intro before after
  have h := lexes_parameter before value after
  simpa [sqlFrom, values] using h

theorem append_blank (hs : Shows s ts) (ht : Shows t us) :
    Shows (s ++ .text " " :: t) (ts ++ us) := by
  intro before after
  have h := (hs before (t.values ++ after)).append_blank
    (by simpa using ht (before ++ s.values) after)
  simpa [values, sqlFrom, sqlFrom_append, Nat.add_right_comm] using h

theorem append_comma (hs : Shows s ts) (ht : Shows t us) :
    Shows (s ++ .text ", " :: t) (ts ++ .comma :: us) := by
  intro before after
  have h := (hs before (t.values ++ after)).append_comma
    (by simpa using ht (before ++ s.values) after)
  simpa [values, sqlFrom, sqlFrom_append, Nat.add_right_comm] using h

theorem parens (h : Shows s ts) :
    Shows (.text "(" :: s ++ [.text ")"]) (.opening :: ts ++ [.closing]) := by
  intro before after
  simpa [values, sqlFrom, sqlFrom_append] using (h before after).append_closing.opening

end Shows

end Statement

end HybridQuery
