import HybridQuery.Proofs.Written

/-!
# The groups of a query are those of its clauses

Rendering puts each group of clauses between parentheses, and values may hold parentheses,
brackets and quotes of their own. Read back from the query, the groups are nevertheless those of
the clauses: one pair of parentheses for each, nested and ordered alike
(`Compiler.readGroups_query`).

Values are the leaves of this. An escaped string is inert, a phrase and a pattern stand between
double quotes, and everything else is written without delimiters. All of them are therefore neutral
(`neutral_renderLiteral`), and so is a placeholder. Only a list has brackets, which end with it, so
a comparison has no groups (`reads_renderComparison`). What goes through the tree is that a clause
is read as its own groups and leaves nothing open, which holds at every depth (`Clause.Shown`).

Raw text is left out, and so are backslashes in a string or a pattern, which would shield a
delimiter that is added to them.
-/

namespace HybridQuery

/-! ## Clauses -/

namespace Clause

mutual

/-- The groups of a clause. -/
def nests : Clause → List Nest
  | .group _ children => [.node (nestsAll children)]
  | .comparison _ => []
  | .literal _ => []
  | .column _ => []
  | .compiled _ => []

/-- The groups of several clauses, in their order. -/
def nestsAll : List Clause → List Nest
  | [] => []
  | clause :: rest => nests clause ++ nestsAll rest

end

theorem nestsAll_eq : ∀ clauses : List Clause, nestsAll clauses = (clauses.map nests).flatten
  | [] => rfl
  | clause :: rest => by
    rw [nestsAll, nestsAll_eq rest, List.map_cons, List.flatten_cons]

end Clause

/-- The text is what a clause is in the query of a predicate. It is read as the groups of the
clause, with nothing left open at its end, and so are the texts of the children in it. -/
inductive Clause.Shown (compiler : Compiler) (p : Predicate) : Clause → String → Prop
  | comparison {c : Comparison} {text : String}
    (hrender : (compiler.render (.comparison c)).outcome = .ok text)
    (hreads : Reads (p.written text) []) :
    Shown compiler p (.comparison c) (p.written text)
  | group {combinator : Combinator} {children : List Clause} {texts : List String}
    (hchildren : List.Forall₂ (Shown compiler p) children texts)
    (hreads : Reads ("(" ++ combinator.joiner.intercalate texts ++ ")")
      [.node (Clause.nestsAll children)]) :
    Shown compiler p (.group combinator children)
      ("(" ++ combinator.joiner.intercalate texts ++ ")")

/-! ## Values -/

/-- A rendered literal is passed over, also in brackets. -/
theorem neutral_renderLiteral {value : Literal} {text : String}
    (hplain : value.IsPlain) (h : renderLiteral value = .ok text) :
    Neutral text := by
  rcases renderLiteral_cases hplain h with htext | ⟨source, hsource, rfl⟩ | ⟨phrase, -, rfl⟩
  · exact .of_plain htext.toPlainText
  · exact .of_inert (inert_escape hsource)
  · refine Neutral.quoted ?_
    rw [String.toList_ofList]
    exact quotable_phraseBody phrase.toList

/-- A list has brackets, and its values are neutral between them. -/
theorem reads_renderList {values : List Literal} {text : String}
    (hplain : ∀ value ∈ values, value.IsPlain) (h : renderList values = .ok text) :
    Reads text [] := by
  obtain ⟨texts, htexts, h⟩ := bind_eq_ok.mp h
  cases h
  have hcomma : Neutral "," := .of_plain (by decide)
  refine Reads.bracketed (hcomma.intercalate fun text htext => ?_)
  obtain ⟨value, hvalue, hrender⟩ :=
    Logged.exists_of_mem_each (Logged.each_of_mapM htexts) text htext
  exact neutral_renderLiteral (hplain value hvalue) hrender

theorem reads_renderOperand (p : Predicate) {operand : Operand} {text : String}
    (hplain : operand.IsPlain) (hmarks : ∀ t ∈ operand.texts, mark ∉ t.toList)
    (h : (renderOperand operand).outcome = .ok text) : Reads (p.written text) [] := by
  cases operand with
  | literal value =>
    exact p.reads_written ((accounts_renderLiteral value).mark_not_mem hmarks h)
      (neutral_renderLiteral hplain h).reads
  | column c =>
    cases h
    exact (p.neutral_written (by decide)).reads
  | list values =>
    exact p.reads_written ((accounts_renderList values).mark_not_mem hmarks h)
      (reads_renderList hplain h)

/-- A name and a token in front of a value. -/
theorem reads_lead (p : Predicate) {name token value : String} (hname : PlainText name)
    (htoken : PlainText token) (hvalue : Reads (p.written value) []) :
    Reads (p.written (name ++ token ++ value)) [] := by
  have hlead := (p.neutral_written (hname.append htoken)).reads.append hvalue
  rwa [← p.written_append] at hlead

/-- A comparison has no groups, and whatever it opens is closed at its end. -/
theorem reads_of_shape (p : Predicate) {c : Comparison} {text : String}
    (hname : PlainText c.column.name) (hoperand : c.operand.IsPlain)
    (hmarks : ∀ t ∈ c.operand.texts, mark ∉ t.toList) (h : c.Shape text) :
    Reads (p.written text) [] := by
  cases h with
  | joined _ htoken hvalue =>
    exact reads_lead p hname htoken.toPlainText (reads_renderOperand p hoperand hmarks hvalue)
  | @spaced sign _ _ hsign hvalue =>
    have htoken : PlainText (" " ++ sign ++ " ") := by
      revert sign
      decide
    exact reads_lead p hname htoken (reads_renderOperand p hoperand hmarks hvalue)
  | range _ hlow hhigh =>
    have hrange := ((hname.append (t := ":") (by decide)).append
      (Compact.of_numeral hlow).toPlainText).append (t := " /to/ ") (by decide)
    exact (p.neutral_written (hrange.append (Compact.of_numeral hhigh).toPlainText)).reads
  | @quoted _ body _ htoken hbody hmark =>
    have hquoted : mark ∉ ("\"" ++ body ++ "\"").toList := by
      simpa using ⟨by decide, hmark, by decide⟩
    exact reads_lead p hname htoken.toPlainText
      (p.reads_written hquoted (Neutral.quoted hbody).reads)

/-! ## Queries -/

namespace Clause

variable {compiler : Compiler} {p : Predicate}

theorem Shown.reads {clause : Clause} {text : String} (h : clause.Shown compiler p text) :
    Reads text clause.nests := by
  cases h with
  | comparison _ hreads => exact hreads
  | group _ hreads => exact hreads

/-- What stands between clauses adds no groups to theirs. -/
theorem reads_of_shown {clauses : List Clause} {texts : List String} {separator : String}
    (h : List.Forall₂ (Shown compiler p) clauses texts) (hseparator : Neutral separator) :
    Reads (separator.intercalate texts) (nestsAll clauses) := by
  have hreads : List.Forall₂ (fun text clause => Reads text (nests clause)) texts clauses :=
    (h.imp fun _ _ => Shown.reads).flip
  rw [nestsAll_eq]
  exact Reads.intercalate hseparator (List.forall₂_map_right_iff.mpr hreads)

/-- Clauses are shown one after another, and a group by its children between parentheses. -/
theorem shown_of_render {nested : Clause → Rendered}
    (hnested : compiler.render = renderClause .standard nested) (clause : Clause)
    (hplain : ∀ node ∈ clause.nodes, node.IsPlain)
    (hmarks : ∀ t ∈ clause.texts, mark ∉ t.toList) : ∀ text,
      (compiler.render clause).outcome = .ok text → clause.Shown compiler p (p.written text) := by
  induction clause with
  | comparison c =>
    intro text htext
    obtain ⟨hname, hoperand⟩ := hplain _ List.mem_cons_self
    have hvalues : ∀ t ∈ c.operand.texts, mark ∉ t.toList := by
      intro t ht
      exact hmarks t (by simp [texts, nodes, ownTexts, ht])
    refine .comparison htext ?_
    rw [hnested] at htext
    exact reads_of_shape p hname hoperand hvalues (shape_renderComparison hoperand hvalues htext)
  | group combinator children ih =>
    intro text htext
    rw [nodes_group, List.forall_mem_cons, List.forall_mem_flatMap] at hplain
    rw [texts_group, List.forall_mem_flatMap] at hmarks
    have hne : children ≠ [] := by
      rintro rfl
      rw [hnested] at htext
      cases htext
    rw [hnested, renderClause_group nested _ _ hne, ← hnested] at htext
    obtain ⟨texts, htexts, htext⟩ := Logged.bind_eq_ok.mp htext
    cases htext
    have hchildren : List.Forall₂ (Shown compiler p) children (texts.map p.written) :=
      List.forall₂_map_right_iff.mpr <| Logged.forall₂_of_each htexts fun c hc t ht hrender =>
        ih c hc (hplain.2 c hc) (hmarks c hc) t hrender
    have hjoiner : Neutral combinator.joiner := by
      cases combinator <;> exact .of_plain (by decide)
    rw [Predicate.written_group]
    exact .group hchildren (reads_of_shown hchildren hjoiner).parenthesized
  | literal _ | column _ | compiled _ => exact absurd (hplain _ (self_mem_nodes _)) id

end Clause

namespace Compiler

section Compile

variable {columnSql : Column → String} {nesting : Nat} {clauses : List Clause}
  {limit offset : UInt64} {p : Predicate}

theorem head?_ne_declare (hplain : ∀ node ∈ Clause.nodesAll clauses, node.IsPlain) (name : String) :
    clauses.head? ≠ some (.declare name) := by
  intro hhead
  exact hplain _ (Clause.mem_nodesAll_of_mem (List.mem_of_mem_head? hhead))

/-- A search that compiles has no marks in its texts. -/
theorem mark_not_mem_texts (hplain : ∀ node ∈ Clause.nodesAll clauses, node.IsPlain)
    (h : Compiler.compile ⟨.standard, columnSql, nesting⟩ clauses none limit offset = .ok p) :
    ∀ text ∈ clauses.flatMap Clause.texts, mark ∉ text.toList := by
  have htexts := (searchable_of_compile h).texts
  rw [Clause.undeclared_of_not_declare (head?_ne_declare hplain)] at htexts
  exact fun text htext => htexts text (List.mem_append_left _ htext)

/-- The query of plain clauses is made of a text for each clause. -/
theorem shown_query (hplain : ∀ node ∈ Clause.nodesAll clauses, node.IsPlain)
    (h : Compiler.compile ⟨.standard, columnSql, nesting⟩ clauses none limit offset = .ok p) :
    ∃ texts, p.query = " and ".intercalate texts ∧
      List.Forall₂ (Clause.Shown ⟨.standard, columnSql, nesting⟩ p) clauses texts := by
  have htexts := mark_not_mem_texts hplain h
  obtain ⟨d, hd, htemplate, -, harguments⟩ := compile_eq_ok.mp h
  obtain ⟨texts, hrender, htext, -, -⟩ := draft_none_eq_ok.mp hd
  have hempty : p.arguments.isEmpty = d.columns.isEmpty := by
    rw [harguments, List.isEmpty_map]
  obtain ⟨nested, hnested⟩ := render_eq_renderClause ⟨.standard, columnSql, nesting⟩
  rw [renderAll_of_not_declare (head?_ne_declare hplain)] at hrender
  rw [Clause.nodesAll_eq, List.forall_mem_flatMap] at hplain
  refine ⟨texts.map p.written, ?_, ?_⟩
  · rw [Predicate.query_eq_written htemplate hempty, htext, Predicate.written_intercalate p rfl]
  · exact List.forall₂_map_right_iff.mpr <| Logged.forall₂_of_each hrender fun c hc t ht hrender =>
      Clause.shown_of_render hnested c (hplain c hc)
        (fun s hs => htexts s (List.mem_flatMap.mpr ⟨c, hc, hs⟩)) t hrender

end Compile

/-- The query of plain clauses is read as their groups. It is made of one text for each clause, in
order, and these are read as the groups of the clauses by themselves, to any depth. -/
theorem readGroups_query (columnSql : Column → String) (nesting : Nat) (clauses : List Clause)
    (limit offset : UInt64) (p : Predicate)
    (hplain : ∀ node ∈ Clause.nodesAll clauses, node.IsPlain)
    (h : Compiler.compile ⟨.standard, columnSql, nesting⟩ clauses none limit offset = .ok p) :
    readGroups p.query = some (Clause.nestsAll clauses) ∧
      ∃ texts, p.query = " and ".intercalate texts ∧
        List.Forall₂ (Clause.Shown ⟨.standard, columnSql, nesting⟩ p) clauses texts := by
  obtain ⟨texts, hquery, hshown⟩ := shown_query hplain h
  refine ⟨?_, texts, hquery, hshown⟩
  rw [hquery]
  exact (Clause.reads_of_shown hshown (.of_plain (by decide))).readGroups_eq

/-- Parentheses and brackets in a pattern, in a list and behind the backslash of a phrase, next to
a placeholder. -/
theorem readGroups_query_nested :
    ∃ (clauses : List Clause) (p : Predicate),
      clauses =
        [.any [Column.like ⟨"products", "name", .search⟩ (.literal (.pattern ⟨"(a|b)[c]"⟩)),
          .all [Column.isIn ⟨"products", "tags", .search⟩ [.string "(", .string "x]"]]],
        Column.eq ⟨"products", "author", .search⟩ (.column ⟨"products", "name", .relational⟩),
        Column.isMatch ⟨"products", "note", .search⟩ (.literal (.phrase "a \\(b\\"))] ∧
      Compiler.compile {} clauses none 0 0 = .ok p ∧
      p.query = "(name:~\"(a|b)[c]\" or (tags:[\\(,x\\]])) and author:\"%s\" and note:@\"a \\(b\"" ∧
      readGroups p.query = some [.node [.node []]] := by
  have hcompile : Compiler.compile {}
      [.any [Column.like ⟨"products", "name", .search⟩ (.literal (.pattern ⟨"(a|b)[c]"⟩)),
        .all [Column.isIn ⟨"products", "tags", .search⟩ [.string "(", .string "x]"]]],
      Column.eq ⟨"products", "author", .search⟩ (.column ⟨"products", "name", .relational⟩),
      Column.isMatch ⟨"products", "note", .search⟩ (.literal (.phrase "a \\(b\\"))] none 0 0 =
        .ok ⟨"products",
          "(name:~\"(a|b)[c]\" or (tags:[\\(,x\\]])) and author:\"%s\" and note:@\"a \\(b\"",
          ["replace(products.name, '\"', '')"]⟩ := rfl
  refine ⟨_, _, rfl, hcompile, rfl, (readGroups_query _ _ _ _ _ _ (by decide) hcompile).1⟩

end Compiler

end HybridQuery
