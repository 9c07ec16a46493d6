import HybridQuery.Proofs.GroupReader
import HybridQuery.Proofs.Searchable

/-!
# How plain comparisons are written

A comparison is *plain* when no raw text is in it, the name of its column has no delimiters, and
strings and patterns have no backslashes, which would shield a delimiter that is added to them
(`Clause.IsPlain`). Its values are written without delimiters and spaces, escaped, or as a phrase
(`renderLiteral_cases`), and the comparison in one of four forms (`Comparison.Shape`): with a token
between the name and the value that has no spaces or one at each of its ends, as a range of two
numbers, or with double quotes around the value.

In the query of a predicate a rendered text may stand as it is or as a template
(`Predicate.written`).
-/

namespace HybridQuery

/-! ## Plain clauses -/

/-- No raw text, and no backslash where none is escaped. -/
def Literal.IsPlain : Literal → Prop
  | .raw _ => False
  | .string text => '\\' ∉ text.toList
  | .pattern p => '\\' ∉ p.source.toList
  | _ => True

instance : DecidablePred Literal.IsPlain
  | .raw _ => inferInstanceAs (Decidable False)
  | .string text => inferInstanceAs (Decidable ('\\' ∉ text.toList))
  | .pattern p => inferInstanceAs (Decidable ('\\' ∉ p.source.toList))
  | .integer _ | .float _ | .boolean _ | .null | .phrase _ | .table _ | .dateTime _ =>
    inferInstanceAs (Decidable True)

def Operand.IsPlain : Operand → Prop
  | .literal value => value.IsPlain
  | .column _ => True
  | .list values => ∀ value ∈ values, value.IsPlain

instance : DecidablePred Operand.IsPlain
  | .literal value => inferInstanceAs (Decidable value.IsPlain)
  | .column _ => inferInstanceAs (Decidable True)
  | .list values => inferInstanceAs (Decidable (∀ value ∈ values, value.IsPlain))

/-- A plain comparison, of a column with a plain name, or a group. -/
def Clause.IsPlain : Clause → Prop
  | .comparison c => PlainText c.column.name ∧ c.operand.IsPlain
  | .group _ _ => True
  | _ => False

instance : DecidablePred Clause.IsPlain
  | .comparison c => inferInstanceAs (Decidable (PlainText c.column.name ∧ c.operand.IsPlain))
  | .group _ _ => inferInstanceAs (Decidable True)
  | .literal _ | .column _ | .compiled _ => inferInstanceAs (Decidable False)

/-! ## Compact texts -/

/-- A plain text without spaces. -/
structure Compact (text : String) : Prop extends PlainText text where
  space : ' ' ∉ text.toList

namespace Compact

instance (text : String) : Decidable (Compact text) :=
  decidable_of_iff (PlainText text ∧ ' ' ∉ text.toList) ⟨fun h => ⟨h.1, h.2⟩, fun h => ⟨h.1, h.2⟩⟩

theorem of_numeral {text : String} (h : Numeral text.toList) : Compact text :=
  ⟨.of_forall h rfl, fun hspace => absurd (h _ hspace) (by decide)⟩

protected theorem append {s t : String} (hs : Compact s) (ht : Compact t) : Compact (s ++ t) := by
  refine ⟨hs.toPlainText.append ht.toPlainText, ?_⟩
  rw [String.toList_append, List.mem_append]
  exact not_or.mpr ⟨hs.space, ht.space⟩

end Compact

/-! ## Values -/

theorem Quotable.of_plain {text : String} (h : PlainText text) : Quotable text.toList := by
  refine ⟨fun hmem => h.delimiter _ hmem (by decide), shields_of_not_mem h.backslash⟩

theorem quotable_escape {text : String} (h : '\\' ∉ text.toList) :
    Quotable (escape text).toList := by
  refine ⟨?_, (inert_escape h).shields_eq_false⟩
  rw [toList_escape]
  exact quote_not_mem_escapeChars text.toList

theorem backslashes_dropTrailing (text : List Char) :
    backslashes (dropTrailing '\\' text) = 0 := by
  rw [backslashes, dropTrailing, List.reverse_reverse, List.length_eq_zero_iff]
  induction text.reverse with
  | nil => rfl
  | cons c rest ih => by_cases hc : c = '\\' <;> simp [hc, ih]

/-- A phrase may hold backslashes, but none in front of the quote that ends it. -/
theorem quotable_phraseBody (phrase : List Char) : Quotable (phraseBody phrase) := by
  constructor
  · intro hmem
    simpa using (List.mem_filter.mp (mem_of_mem_dropTrailing hmem)).2
  · rw [phraseBody, shields_eq_false_iff, backslashes_dropTrailing]
    exact Even.zero

section Values

variable {value : Literal} {text : String}

theorem numeral_renderNumber {x : Binary64} (h : renderNumber x = .ok text) :
    Numeral text.toList := by
  unfold renderNumber at h
  split_ifs at h with hfinite
  cases h
  exact Numeral.float hfinite

/-- How literals are written: without delimiters and spaces, escaped, or as a phrase. -/
theorem renderLiteral_cases (hplain : value.IsPlain) (h : renderLiteral value = .ok text) :
    Compact text ∨ (∃ source : String, '\\' ∉ source.toList ∧ text = escape source) ∨
      ∃ phrase, value = .phrase phrase ∧ text = quotePhrase phrase := by
  cases value with
  | string source =>
    cases h
    exact .inr (.inl ⟨source, hplain, rfl⟩)
  | integer n =>
    cases h
    exact .inl (.of_numeral (Numeral.integerText n.toInt))
  | float x => exact .inl (.of_numeral (numeral_renderNumber h))
  | boolean b => cases b <;> cases h <;> exact .inl (by decide)
  | null =>
    cases h
    exact .inl (by decide)
  | raw source => exact hplain.elim
  | phrase phrase =>
    cases h
    exact .inr (.inr ⟨phrase, rfl, rfl⟩)
  | pattern _ | table _ => cases h
  | dateTime t =>
    -- the colons of a date are escaped, and it has no backslashes
    rw [renderLiteral, DateTime.text] at h
    cases hdate : t.rfc3339 with
    | error part =>
      rw [hdate] at h
      cases h
    | ok source =>
      rw [hdate] at h
      cases h
      exact .inr (.inl ⟨source, (Compact.of_numeral (Numeral.rfc3339 hdate)).backslash, rfl⟩)

/-- What is no phrase can be put between double quotes. -/
theorem quotable_renderLiteral (hplain : value.IsPlain) (hphrase : ∀ phrase, value ≠ .phrase phrase)
    (h : renderLiteral value = .ok text) : Quotable text.toList := by
  rcases renderLiteral_cases hplain h with htext | ⟨source, hsource, rfl⟩ | ⟨phrase, rfl, -⟩
  · exact .of_plain htext.toPlainText
  · exact quotable_escape hsource
  · exact absurd rfl (hphrase phrase)

end Values

/-! ## Forms of a comparison -/

/-- The token of the operator begins and ends with a space. -/
def Operator.isSpaced : Operator → Bool
  | .ne | .isNot | .gt | .gte | .lt | .lte => true
  | .eq | .matches | .like | .between | .isIn => false

/-- The forms that a rendered comparison has. -/
inductive Comparison.Shape (c : Comparison) : String → Prop
  | joined {token value : String} (hspaced : c.operator.isSpaced = false) (htoken : Compact token)
    (hvalue : (renderOperand c.operand).outcome = .ok value) :
    Shape c (c.column.name ++ token ++ value)
  | spaced {sign value : String} (hspaced : c.operator.isSpaced = true)
    (hsign : sign ∈ ["!=", ">", ">=", "<", "<="])
    (hvalue : (renderOperand c.operand).outcome = .ok value) :
    Shape c (c.column.name ++ (" " ++ sign ++ " ") ++ value)
  | range {low high : String} (hspaced : c.operator.isSpaced = false)
    (hlow : Numeral low.toList) (hhigh : Numeral high.toList) :
    Shape c (c.column.name ++ ":" ++ low ++ " /to/ " ++ high)
  | quoted {token body : String} (hspaced : c.operator.isSpaced = false) (htoken : Compact token)
    (hbody : Quotable body.toList) (hmark : mark ∉ body.toList) :
    Shape c (c.column.name ++ token ++ ("\"" ++ body ++ "\""))

section Shape

variable {column : Column} {nested : Clause → Rendered} {operand : Operand} {text : String}

theorem shape_withOperand {operator : Operator} {token : String}
    (hspaced : operator.isSpaced = false) (htoken : Compact token)
    (h : ((Script.withOperand (column.name ++ token) operand).run nested).outcome = .ok text) :
    Comparison.Shape ⟨column, operator, operand⟩ text := by
  rw [Script.run_withOperand] at h
  obtain ⟨value, hvalue, h⟩ := Logged.bind_eq_ok.mp h
  cases h
  exact .joined hspaced htoken hvalue

theorem numeral_renderLiteral {value : Literal} (hnumeric : value.isNumeric = true)
    (h : renderLiteral value = .ok text) : Numeral text.toList := by
  cases value with
  | integer n =>
    cases h
    exact Numeral.integerText n.toInt
  | float x => exact numeral_renderNumber h
  | string _ | boolean _ | null | pattern _ | raw _ | phrase _ | table _ | dateTime _ =>
    cases hnumeric

theorem shape_between (h : ((Script.between column operand).run nested).outcome = .ok text) :
    Comparison.Shape ⟨column, .between, operand⟩ text := by
  match operand with
  | .literal _ | .column _ | .list [] | .list [_] | .list (_ :: _ :: _ :: _) => cases h
  | .list [low, high] =>
    rw [Script.between] at h
    split_ifs at h with hlow hhigh
    · cases h
    · cases h
    · obtain ⟨lowText, hlowText, h⟩ := bind_eq_ok.mp h
      obtain ⟨highText, hhighText, h⟩ := bind_eq_ok.mp h
      cases h
      exact .range rfl (numeral_renderLiteral (by simpa using hlow) hlowText)
        (numeral_renderLiteral (by simpa using hhigh) hhighText)

theorem shape_like_pattern {source : String} (hsource : '\\' ∉ source.toList)
    (hmark : mark ∉ source.toList) : Comparison.Shape ⟨column, .like, operand⟩
      (column.name ++ ":~\"" ++ String.ofList (withoutQuotes source.toList) ++ "\"") := by
  have hkept : ∀ c ∈ (String.ofList (withoutQuotes source.toList)).toList,
      c ∈ source.toList ∧ c ≠ '"' := by
    intro c hc
    rw [String.toList_ofList] at hc
    simpa using List.mem_filter.mp hc
  have hassoc : column.name ++ ":~\"" ++ String.ofList (withoutQuotes source.toList) ++ "\"" =
      column.name ++ ":~" ++ ("\"" ++ String.ofList (withoutQuotes source.toList) ++ "\"") := by
    simp [← String.toList_inj]
  rw [hassoc]
  refine .quoted rfl (by decide) ⟨?_, ?_⟩ ?_
  · exact fun hmem => (hkept _ hmem).2 rfl
  · exact shields_of_not_mem fun hmem => hsource (hkept _ hmem).1
  · exact fun hmem => hmark (hkept _ hmem).1

theorem shape_like (hplain : operand.IsPlain) (hmarks : ∀ t ∈ operand.texts, mark ∉ t.toList)
    (h : ((Script.like column operand).run nested).outcome = .ok text) :
    Comparison.Shape ⟨column, .like, operand⟩ text := by
  have hquoted (value : Literal) (hplain : value.IsPlain) (hphrase : ∀ s, value ≠ .phrase s)
      (hmarks : ∀ t ∈ value.texts, mark ∉ t.toList)
      (h : (renderLiteral value >>= fun text => .ok (column.name ++ ":\"" ++ text ++ "\"")) =
        .ok text) : Comparison.Shape ⟨column, .like, operand⟩ text := by
    obtain ⟨valueText, hvalue, h⟩ := bind_eq_ok.mp h
    cases h
    have hassoc : column.name ++ ":\"" ++ valueText ++ "\"" =
        column.name ++ ":" ++ ("\"" ++ valueText ++ "\"") := by
      simp [← String.toList_inj]
    rw [hassoc]
    exact .quoted rfl (by decide) (quotable_renderLiteral hplain hphrase hvalue)
      ((accounts_renderLiteral value).mark_not_mem hmarks hvalue)
  match operand with
  | .literal (.pattern p) =>
    cases h
    exact shape_like_pattern hplain (hmarks p.source (List.mem_singleton_self p.source))
  | .literal (.phrase phrase) => exact shape_withOperand rfl (by decide) h
  | .column other => exact shape_withOperand rfl (by decide) h
  | .list values => cases h
  | .literal (.string s) => exact hquoted (.string s) hplain (by simp) hmarks h
  | .literal (.integer n) => exact hquoted (.integer n) hplain (by simp) hmarks h
  | .literal (.float x) => exact hquoted (.float x) hplain (by simp) hmarks h
  | .literal (.boolean b) => exact hquoted (.boolean b) hplain (by simp) hmarks h
  | .literal .null => exact hquoted .null hplain (by simp) hmarks h
  | .literal (.raw s) => exact hquoted (.raw s) hplain (by simp) hmarks h
  | .literal (.table name) => exact hquoted (.table name) hplain (by simp) hmarks h
  | .literal (.dateTime t) => exact hquoted (.dateTime t) hplain (by simp) hmarks h

theorem shape_isIn (h : ((Script.isIn column operand).run nested).outcome = .ok text) :
    Comparison.Shape ⟨column, .isIn, operand⟩ text := by
  cases operand with
  | literal _ | column _ => cases h
  | list values =>
    rw [Script.isIn] at h
    split_ifs at h
    · exact shape_withOperand rfl (by decide) h
    · cases h

/-- What is rendered has one of the forms. -/
theorem shape_renderComparison {c : Comparison} (hplain : c.operand.IsPlain)
    (hmarks : ∀ t ∈ c.operand.texts, mark ∉ t.toList)
    (h : (renderComparison .standard nested c).outcome = .ok text) : c.Shape text := by
  obtain ⟨column, operator, operand⟩ := c
  have hjoined (token : String) (hspaced : operator.isSpaced = false) (htoken : Compact token)
      (h : (renderOperand operand >>= fun value =>
        pure (column.name ++ token ++ value)).outcome = .ok text) :
      Comparison.Shape ⟨column, operator, operand⟩ text := by
    obtain ⟨value, hvalue, h⟩ := Logged.bind_eq_ok.mp h
    cases h
    exact .joined hspaced htoken hvalue
  have hspaced (sign : String) (hspaced : operator.isSpaced = true)
      (hsign : sign ∈ ["!=", ">", ">=", "<", "<="])
      (h : (renderOperand operand >>= fun value =>
        pure (column.name ++ (" " ++ sign ++ " ") ++ value)).outcome = .ok text) :
      Comparison.Shape ⟨column, operator, operand⟩ text := by
    obtain ⟨value, hvalue, h⟩ := Logged.bind_eq_ok.mp h
    cases h
    exact .spaced hspaced hsign hvalue
  cases operator with
  | eq => exact hjoined ":" rfl (by decide) h
  | «matches» => exact hjoined ":@" rfl (by decide) h
  | ne => exact hspaced "!=" rfl (by decide) h
  | isNot => exact hspaced "!=" rfl (by decide) h
  | gt => exact hspaced ">" rfl (by decide) h
  | gte => exact hspaced ">=" rfl (by decide) h
  | lt => exact hspaced "<" rfl (by decide) h
  | lte => exact hspaced "<=" rfl (by decide) h
  | like => exact shape_like hplain hmarks h
  | between => exact shape_between h
  | isIn => exact shape_isIn h

end Shape

/-! ## Texts in a query -/

/-- A rendered text as it stands in the query of a predicate, which is a template if there are
arguments. -/
def Predicate.written (p : Predicate) (text : String) : String :=
  if p.arguments.isEmpty then text else formatText text

namespace Predicate

variable (p : Predicate)

theorem written_intercalate {separator : String} (h : formatText separator = separator)
    (texts : List String) :
    p.written (separator.intercalate texts) = separator.intercalate (texts.map p.written) := by
  unfold written
  split_ifs
  · rw [List.map_id']
  · exact formatText_intercalate h texts

theorem written_group (combinator : Combinator) (texts : List String) :
    p.written ("(" ++ combinator.joiner.intercalate texts ++ ")") =
      "(" ++ combinator.joiner.intercalate (texts.map p.written) ++ ")" := by
  have hjoiner : formatText combinator.joiner = combinator.joiner := by cases combinator <;> rfl
  rw [← written_intercalate p hjoiner]
  unfold written
  split_ifs
  · rfl
  · rw [formatText_append, formatText_append]
    rfl

/-- The query is the text of the draft as it is written. -/
theorem query_eq_written {p : Predicate} {d : Draft} (h : d.template = .ok p.query)
    (hempty : p.arguments.isEmpty = d.columns.isEmpty) : p.query = p.written d.text := by
  rw [Draft.template_of_marks (Draft.marks_of_template h)] at h
  rw [written, hempty]
  exact (Except.ok.inj h).symm

theorem written_append (s t : String) : p.written (s ++ t) = p.written s ++ p.written t := by
  unfold written
  split_ifs
  · rfl
  · exact formatText_append s t

/-- A plain text is neutral as it stands and in a template. -/
theorem neutral_written {text : String} (h : PlainText text) : Neutral (p.written text) := by
  unfold written
  split_ifs
  · exact .of_plain h
  · exact neutral_formatText_of_plain h

/-- Without marks a template is read as the text. -/
theorem reads_written {text : String} {groups : List Nest} (hmark : mark ∉ text.toList)
    (h : Reads text groups) : Reads (p.written text) groups := by
  unfold written
  split_ifs
  · exact h
  · exact (reads_formatText_iff hmark).mpr h

end Predicate

end HybridQuery
