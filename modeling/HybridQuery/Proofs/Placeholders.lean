import HybridQuery.Proofs.Notes

/-!
# What the placeholders stand for

The SQL of a column goes into the arguments of a search and nowhere else. Clauses are rendered
without it, and a placeholder is a mark until the columns of the draft are counted.

In the search engine's syntax the arguments are those of the columns that the clauses put in, from
left to right (`Clause.columns`), and each placeholder stands for the column in its place. This is
told by putting in the values earlier: clauses whose columns are replaced by their values in double
quotes (`Clause.filled`) are rendered to the text that the search engine gets
(`Compiler.compile_columnSql`).
-/

namespace HybridQuery

/-! ## Filled texts -/

/-- A text with a mark for each of the columns, and what it is with their values. -/
structure Filled (valueOf : Column → String) (columns : List Column) (text filled : String) :
    Prop where
  count : marksOf text = columns.length
  eq : filled = fillText text (columns.map valueOf)

namespace Filled

variable {valueOf : Column → String} {columns others : List Column} {s s' t t' : String}

/-- Nothing is put into a text without marks. -/
theorem plain (h : marksOf t = 0) : Filled valueOf [] t t :=
  ⟨h, (fillText_of_marks_eq_zero h _).symm⟩

/-- The value of a column stands in double quotes. -/
theorem column (c : Column) :
    Filled valueOf [c] (String.singleton mark) ("\"" ++ valueOf c ++ "\"") := by
  refine ⟨rfl, ?_⟩
  have hsingle : (String.singleton mark).toList = [mark] := rfl
  rw [fillText, hsingle, List.map_singleton, fill_mark, ← String.toList_inj]
  simp [fill]

protected theorem append (hs : Filled valueOf columns s s') (ht : Filled valueOf others t t') :
    Filled valueOf (columns ++ others) (s ++ t) (s' ++ t') := by
  obtain ⟨hsmarks, rfl⟩ := hs
  obtain ⟨htmarks, rfl⟩ := ht
  refine ⟨by rw [marksOf_append, hsmarks, htmarks, List.length_append], ?_⟩
  have hlength : (columns.map valueOf).length = marksOf s := by rw [List.length_map, hsmarks]
  rw [List.map_append]
  exact (fillText_append hlength t _).symm

/-- Plain text around it stays. -/
theorem wrap {lead tail : String} (hlead : marksOf lead = 0) (htail : marksOf tail = 0)
    (h : Filled valueOf columns t t') :
    Filled valueOf columns (lead ++ t ++ tail) (lead ++ t' ++ tail) := by
  have hwrapped := ((plain hlead).append h).append (plain htail)
  rwa [List.nil_append, List.append_nil] at hwrapped

/-- A text in front of others, with a separator if there are any. -/
theorem intercalate_cons {separator : String} (hseparator : marksOf separator = 0)
    {texts rest : List String} (hlength : texts.length = rest.length)
    (hs : Filled valueOf columns s s')
    (hrest : Filled valueOf others (separator.intercalate texts) (separator.intercalate rest)) :
    Filled valueOf (columns ++ others) (separator.intercalate (s :: texts))
      (separator.intercalate (s' :: rest)) := by
  match texts, rest, hlength with
  | [], [], _ =>
    -- without texts there are no marks and no columns
    have hnil : others = [] := List.eq_nil_of_length_eq_zero hrest.count.symm
    rw [hnil, List.append_nil, String.intercalate_singleton, String.intercalate_singleton]
    exact hs
  | second :: texts, second' :: rest, _ =>
    have hseparated := hs.append (plain hseparator)
    rw [List.append_nil] at hseparated
    rw [String.intercalate_cons_cons, String.intercalate_cons_cons]
    exact hseparated.append hrest

end Filled

/-! ## Clauses with values -/

/-- An operand with the value of a column in its place, in double quotes. The operator `like` puts
these by itself. -/
def Operand.filled (valueOf : Column → String) : Operator → Operand → Operand
  | .like, .column c => .literal (.raw (valueOf c))
  | _, .column c => .literal (.raw ("\"" ++ valueOf c ++ "\""))
  | _, operand => operand

namespace Clause

mutual

/-- A clause with the values of columns in the places where they are put in. -/
def filled (valueOf : Column → String) : Clause → Clause
  | .comparison c => .comparison { c with operand := c.operand.filled valueOf c.operator }
  | .group combinator children => .group combinator (filledAll valueOf children)
  | .literal value => .literal value
  | .column c => .literal (.raw ("\"" ++ valueOf c ++ "\""))
  | .compiled p => .compiled p

def filledAll (valueOf : Column → String) : List Clause → List Clause
  | [] => []
  | clause :: rest => filled valueOf clause :: filledAll valueOf rest

end

variable (valueOf : Column → String)

theorem filledAll_eq : ∀ clauses : List Clause,
    filledAll valueOf clauses = clauses.map (filled valueOf)
  | [] => rfl
  | clause :: rest => by
    rw [filledAll, filledAll_eq rest, List.map_cons]

theorem filled_group (combinator : Combinator) (children : List Clause) :
    filled valueOf (.group combinator children) =
      .group combinator (children.map (filled valueOf)) := by
  rw [filled, filledAll_eq]

theorem undeclared_filled (clauses : List Clause) :
    undeclared (clauses.map (filled valueOf)) = (undeclared clauses).map (filled valueOf) := by
  match clauses with
  | [] => rfl
  | .comparison _ :: _ | .group _ _ :: _ | .column _ :: _ | .compiled _ :: _ => rfl
  | .literal value :: rest => cases value <;> rfl

/-- A declaration puts no column in. -/
theorem columns_undeclared (clauses : List Clause) :
    (undeclared clauses).flatMap columns = clauses.flatMap columns := by
  unfold undeclared
  split <;> rfl

end Clause

/-! ## Rendered clauses -/

/-- If `x` ends in a text, `y` ends in that text with the values of the columns. -/
def Fills (valueOf : Column → String) (columns : List Column) (x y : Rendered) : Prop :=
  ∀ text, x.outcome = .ok text →
    ∃ filled, y.outcome = .ok filled ∧ Filled valueOf columns text filled

section Rendering

variable (nested : Clause → Rendered) (valueOf : Column → String)

/-- Without marks in the texts there is one for each column. -/
theorem marksOf_renderClause {clause : Clause} {text : String}
    (hmarks : ∀ t ∈ clause.texts, mark ∉ t.toList)
    (h : (renderClause .standard nested clause).outcome = .ok text) :
    marksOf text = clause.columns.length := by
  have hclause := accounts_renderClause nested clause
  have hlog := leaves_renderClause nested clause text h
  rw [marksAll_eq_zero_iff.mpr hmarks] at hclause
  generalize renderClause .standard nested clause = rendered at hclause h hlog
  cases hclause with
  | error => cases h
  | ok hvalid hcount =>
    cases h
    obtain rfl := hlog
    rw [hcount, Nat.add_zero, placeholders, Clause.filterMap_column?_notes]

/-- A clause that puts no column in stays as it is. -/
theorem fills_of_columns_nil {clause : Clause} (hmarks : ∀ t ∈ clause.texts, mark ∉ t.toList)
    (hfilled : clause.filled valueOf = clause) (hcolumns : clause.columns = []) :
    Fills valueOf clause.columns (renderClause .standard nested clause)
      (renderClause .standard nested (clause.filled valueOf)) := by
  intro text h
  have htext := marksOf_renderClause nested hmarks h
  rw [hcolumns] at htext ⊢
  exact ⟨text, by rw [hfilled, h], .plain htext⟩

theorem fills_token {operator : Operator} {token : String} (column other : Column)
    (hname : mark ∉ column.name.toList) (htoken : marksOf token = 0)
    (hform : Dialect.standard.form operator = .ok (.token token))
    (hoperator : operator ≠ .like) :
    Fills valueOf [other] (renderComparison .standard nested ⟨column, operator, .column other⟩)
      (renderComparison .standard nested
        ⟨column, operator, Operand.filled valueOf operator (.column other)⟩) := by
  have hfilled : Operand.filled valueOf operator (.column other) =
      .literal (.raw ("\"" ++ valueOf other ++ "\"")) := by
    cases operator <;> first | rfl | exact absurd rfl hoperator
  have hlead : marksOf (column.name ++ token) = 0 := by
    rw [marksOf_append_plain htoken]
    exact List.count_eq_zero.mpr hname
  intro text h
  rw [renderComparison_token nested hform] at h
  cases h
  refine ⟨column.name ++ token ++ ("\"" ++ valueOf other ++ "\""), ?_,
    (Filled.plain hlead).append (.column other)⟩
  rw [renderComparison_token nested hform, hfilled]
  rfl

theorem fills_like (column other : Column) (hname : mark ∉ column.name.toList) :
    Fills valueOf [other] (renderComparison .standard nested ⟨column, .like, .column other⟩)
      (renderComparison .standard nested
        ⟨column, .like, Operand.filled valueOf .like (.column other)⟩) := by
  have hlead : marksOf (column.name ++ ":") = 0 := by
    rw [marksOf_append_plain rfl]
    exact List.count_eq_zero.mpr hname
  intro text h
  rw [renderComparison_script nested rfl] at h
  cases h
  refine ⟨column.name ++ ":" ++ ("\"" ++ valueOf other ++ "\""), ?_,
    (Filled.plain hlead).append (.column other)⟩
  have hassoc : column.name ++ ":" ++ ("\"" ++ valueOf other ++ "\"") =
      column.name ++ ":\"" ++ valueOf other ++ "\"" := by
    simp [← String.toList_inj]
  rw [renderComparison_script nested rfl, hassoc]
  rfl

/-- Behind a token the value stands in its double quotes, `like` puts them around it, and the
others refuse a column. -/
theorem fills_renderComparison (column other : Column) (operator : Operator)
    (hname : mark ∉ column.name.toList) :
    Fills valueOf [other] (renderComparison .standard nested ⟨column, operator, .column other⟩)
      (renderComparison .standard nested
        ⟨column, operator, Operand.filled valueOf operator (.column other)⟩) := by
  cases operator with
  | eq | ne | gt | gte | lt | lte | «matches» | isNot =>
    exact fills_token nested valueOf column other hname rfl rfl (by decide)
  | like => exact fills_like nested valueOf column other hname
  | between | isIn =>
    intro text h
    cases h

/-- Clauses in a row are filled one after another, whatever stands between them. -/
theorem fills_each {f : Clause → Rendered} :
    ∀ {clauses : List Clause} {texts : List String},
      (∀ c ∈ clauses, Fills valueOf c.columns (f c) (f (c.filled valueOf))) →
      (Logged.each f clauses).outcome = .ok texts →
      ∃ others, (Logged.each f (clauses.map (Clause.filled valueOf))).outcome = .ok others ∧
        ∀ separator, marksOf separator = 0 →
          Filled valueOf (clauses.flatMap Clause.columns) (separator.intercalate texts)
            (separator.intercalate others)
  | [], _, _, h => by
    cases h
    exact ⟨[], rfl, fun _ _ => .plain rfl⟩
  | clause :: rest, _, hall, h => by
    obtain ⟨hclause, hrest⟩ := List.forall_mem_cons.mp hall
    obtain ⟨text, htext, h⟩ := Logged.bind_eq_ok.mp h
    obtain ⟨texts, htexts, h⟩ := Logged.bind_eq_ok.mp h
    cases h
    obtain ⟨filled, hfilled, hfirst⟩ := hclause text htext
    obtain ⟨others, hothers, hjoined⟩ := fills_each hrest htexts
    refine ⟨filled :: others, ?_, fun separator hseparator => ?_⟩
    · exact Logged.bind_eq_ok.mpr ⟨filled, hfilled, Logged.bind_eq_ok.mpr ⟨others, hothers, rfl⟩⟩
    · have hlength : texts.length = others.length := by
        rw [Logged.length_of_each htexts, Logged.length_of_each hothers, List.length_map]
      exact hfirst.intercalate_cons hseparator hlength (hjoined separator hseparator)

/-- A rendered clause with the values of its columns is the clause with these values, rendered. -/
theorem fills_renderClause (clause : Clause) (hmarks : ∀ t ∈ clause.texts, mark ∉ t.toList) :
    Fills valueOf clause.columns (renderClause .standard nested clause)
      (renderClause .standard nested (clause.filled valueOf)) := by
  induction clause with
  | comparison c =>
    obtain ⟨column, operator, operand⟩ := c
    cases operand with
    | column other =>
      exact fills_renderComparison nested valueOf column other operator
        (hmarks column.name (by simp [Clause.texts, Clause.nodes, Clause.ownTexts]))
    | literal value =>
      exact fills_of_columns_nil nested valueOf hmarks (by cases operator <;> rfl) rfl
    | list values =>
      exact fills_of_columns_nil nested valueOf hmarks (by cases operator <;> rfl) rfl
  | group combinator children ih =>
    rw [texts_group, List.forall_mem_flatMap] at hmarks
    rw [Clause.filled_group, Clause.columns_group]
    by_cases hne : children = []
    · subst hne
      intro text h
      cases h
    · have hne' : children.map (Clause.filled valueOf) ≠ [] := List.map_eq_nil_iff.not.mpr hne
      have hjoiner : marksOf combinator.joiner = 0 := by cases combinator <;> rfl
      intro text h
      rw [renderClause_group nested _ _ hne] at h
      obtain ⟨texts, htexts, h⟩ := Logged.bind_eq_ok.mp h
      cases h
      obtain ⟨others, hothers, hjoined⟩ :=
        fills_each valueOf (fun c hc => ih c hc (hmarks c hc)) htexts
      refine ⟨_, ?_, (hjoined combinator.joiner hjoiner).wrap rfl rfl⟩
      rw [renderClause_group nested _ _ hne']
      exact Logged.bind_eq_ok.mpr ⟨others, hothers, rfl⟩
  | literal value => exact fills_of_columns_nil nested valueOf hmarks rfl rfl
  | column c =>
    intro text h
    cases h
    exact ⟨_, rfl, .column c⟩
  | compiled p =>
    intro text h
    cases h

end Rendering

/-! ## Searches -/

/-- Of a declaration nothing is rendered. -/
theorem Compiler.outcome_renderAll (compiler : Compiler) (clauses : List Clause) :
    (compiler.renderAll clauses).outcome =
      (Logged.each compiler.render (Clause.undeclared clauses)).outcome := by
  rcases compiler.renderAll_undeclared clauses with h | ⟨name, h⟩
  · rw [h]
  · rw [h, Logged.outcome_note_bind]

/-- Without a mark in its field a front has none. -/
theorem exists_renderOrder {order : Option Order} (limit offset : UInt64)
    (h : ∀ text ∈ order.toList.flatMap Order.texts, mark ∉ text.toList) :
    ∃ front, (renderOrder limit offset order).outcome = .ok front ∧ marksOf front = 0 := by
  match order with
  | none => exact ⟨_, rfl, rfl⟩
  | some (.score direction) => exact ⟨_, rfl, marksOf_limitText scoreField direction limit offset⟩
  | some (.column c direction) =>
    refine ⟨_, rfl, (marksOf_limitText c.name direction limit offset).trans ?_⟩
    exact List.count_eq_zero.mpr (h c.name (by simp [Order.texts]))

namespace Compiler

variable {columnSql : Column → String} {nesting : Nat} {clauses : List Clause}
  {order : Option Order} {limit offset : UInt64}

/-- The text of a search with the values of its columns is that of the search for these values. -/
theorem fills_renderQuery (h : Searchable clauses order) (valueOf : Column → String) :
    Fills valueOf (clauses.flatMap Clause.columns)
      (renderQuery ⟨.standard, columnSql, nesting⟩ clauses order limit offset)
      (renderQuery ⟨.standard, columnSql, nesting⟩ (clauses.map (Clause.filled valueOf)) order
        limit offset) := by
  obtain ⟨nested, hnested⟩ := render_eq_renderClause ⟨.standard, columnSql, nesting⟩
  have hmarks := h.texts
  rw [List.forall_mem_append, List.forall_mem_flatMap] at hmarks
  obtain ⟨hclauses, horder⟩ := hmarks
  obtain ⟨front, hfront, hplain⟩ := exists_renderOrder limit offset horder
  intro text htext
  obtain ⟨texts, htexts, htext⟩ := Logged.bind_eq_ok.mp htext
  obtain ⟨front', hfront', htext⟩ := Logged.bind_eq_ok.mp htext
  cases htext
  obtain rfl := Except.ok.inj (hfront.symm.trans hfront')
  rw [outcome_renderAll, hnested] at htexts
  obtain ⟨others, hothers, hjoined⟩ := fills_each valueOf
    (fun c hc => fills_renderClause nested valueOf c (hclauses c hc)) htexts
  rw [← Clause.undeclared_filled, ← hnested, ← outcome_renderAll] at hothers
  refine ⟨front ++ " and ".intercalate others, ?_, ?_⟩
  · exact Logged.bind_eq_ok.mpr ⟨others, hothers, Logged.bind_eq_ok.mpr ⟨front, hfront, rfl⟩⟩
  · have hquery := (Filled.plain hplain).append (hjoined " and " rfl)
    rwa [List.nil_append, Clause.columns_undeclared] at hquery

/-- The draft of a search is made without the SQL of columns. -/
theorem draft_columnSql (dialect : Dialect) (columnSql other : Column → String) :
    draft ⟨dialect, columnSql, nesting⟩ clauses order limit offset =
      draft ⟨dialect, other, nesting⟩ clauses order limit offset := rfl

variable (nesting clauses order limit offset) in
/-- The SQL of columns has no part in a search but its arguments. With any two ways to write it a
compilation fails alike, or gives the same table, the same query and as many arguments.

In the search engine's syntax these are the SQL of the columns that the clauses put in, one after
another, and if the arguments have values, the search engine gets the text of the clauses with the
values of their columns in double quotes. -/
theorem compile_columnSql :
    (∀ (dialect : Dialect) (columnSql other : Column → String),
      (∀ e, compile ⟨dialect, columnSql, nesting⟩ clauses order limit offset = .error e →
        compile ⟨dialect, other, nesting⟩ clauses order limit offset = .error e) ∧
      ∀ p, compile ⟨dialect, columnSql, nesting⟩ clauses order limit offset = .ok p →
        ∃ q, compile ⟨dialect, other, nesting⟩ clauses order limit offset = .ok q ∧
          q.table = p.table ∧ q.query = p.query ∧ q.arguments.length = p.arguments.length) ∧
    ∀ (columnSql : Column → String) (p : Predicate),
      compile ⟨.standard, columnSql, nesting⟩ clauses order limit offset = .ok p →
        p.arguments = (clauses.flatMap Clause.columns).map
          (fun c => "replace(" ++ columnSql c ++ ", '\"', '')") ∧
        ∀ value : String → String, ∃ text,
          (renderQuery ⟨.standard, columnSql, nesting⟩
            (clauses.map (Clause.filled fun c =>
              value ("replace(" ++ columnSql c ++ ", '\"', '')"))) order limit offset).outcome =
            .ok text ∧
          p.searchText value = some text := by
  refine ⟨fun dialect columnSql other => ⟨fun e h => ?_, fun p h => ?_⟩, fun columnSql p h => ?_⟩
  · rw [compile_eq_error, draft_columnSql dialect columnSql other] at h
    exact compile_eq_error.mpr h
  · rw [compile_eq_ok, draft_columnSql dialect columnSql other] at h
    obtain ⟨d, hd, hquery, htable, harguments⟩ := h
    refine ⟨⟨p.table, p.query, d.columns.map fun c => argumentSql (other c)⟩,
      compile_eq_ok.mpr ⟨d, hd, hquery, htable, rfl⟩, rfl, rfl, ?_⟩
    rw [harguments, List.length_map, List.length_map]
  · obtain ⟨d, hd, hquery, -, harguments⟩ := compile_eq_ok.mp h
    have hlength : p.arguments.length = d.columns.length := by rw [harguments, List.length_map]
    rw [columns_of_draft hd] at harguments
    refine ⟨harguments, fun value => ?_⟩
    obtain ⟨htext, -, -⟩ := draft_eq_ok.mp hd
    obtain ⟨text, hfilled, -, heq⟩ := fills_renderQuery (searchable_of_compile h)
      (fun c => value (argumentSql (columnSql c))) d.text htext
    refine ⟨text, hfilled, ?_⟩
    rw [Draft.searchText_eq hquery hlength value, harguments, List.map_map, heq]
    rfl

/-- SQL with a percent sign, a mark and a double quote, of columns in a group and behind it. -/
theorem compile_columnSql_quotes :
    ∃ (clauses : List Clause) (odd : Column → String) (value : String → String) (p : Predicate),
      clauses = [.declare "products",
        .any [Column.like ⟨"products", "author", .search⟩ (.column ⟨"people", "name", .relational⟩),
          .column ⟨"people", "nick", .relational⟩],
        Column.lt ⟨"products", "price", .search⟩ (.column ⟨"products", "cost", .relational⟩)] ∧
      odd = (fun c => "%s\x00\"" ++ c.name) ∧
      value = (fun sql => if sql = "replace(%s\x00\"name, '\"', '')" then "Ann" else "50%") ∧
      compile { columnSql := odd } clauses none 0 0 = .ok p ∧
      p.arguments = ["replace(%s\x00\"name, '\"', '')", "replace(%s\x00\"nick, '\"', '')",
        "replace(%s\x00\"cost, '\"', '')"] ∧
      p.searchText value = some "(author:\"Ann\" or \"50%\") and price < \"50%\"" ∧
      ∃ q, compile {} clauses none 0 0 = .ok q ∧ q.table = p.table ∧ q.query = p.query ∧
        q.arguments.length = p.arguments.length := by
  have hcompile : compile { columnSql := fun c => "%s\x00\"" ++ c.name }
      [.declare "products",
        .any [Column.like ⟨"products", "author", .search⟩ (.column ⟨"people", "name", .relational⟩),
          .column ⟨"people", "nick", .relational⟩],
        Column.lt ⟨"products", "price", .search⟩ (.column ⟨"products", "cost", .relational⟩)]
      none 0 0 = .ok ⟨"products", "(author:\"%s\" or \"%s\") and price < \"%s\"",
        ["replace(%s\x00\"name, '\"', '')", "replace(%s\x00\"nick, '\"', '')",
          "replace(%s\x00\"cost, '\"', '')"]⟩ := rfl
  obtain ⟨hsame, hstandard⟩ := compile_columnSql 100 _ none 0 0
  obtain ⟨-, hsearch⟩ := hstandard _ _ hcompile
  obtain ⟨text, htext, hsearch⟩ := hsearch fun sql =>
    if sql = "replace(%s\x00\"name, '\"', '')" then "Ann" else "50%"
  refine ⟨_, _, _, _, rfl, rfl, rfl, hcompile, rfl, ?_, (hsame _ _ _).2 _ hcompile⟩
  rw [hsearch]
  cases htext
  rfl

end Compiler

end HybridQuery
