import HybridQuery.Proofs.Compilation

/-!
# What a template expands to

`expand` reads a `format` template from left to right: `%%` is a percent sign, `%s` uses up the
next value, and any other use of a percent sign is an error. `fill` puts values in double quotes
where the marks of a text are, and leaves every other character alone.

The template of a draft doubles each percent sign, also one next to a mark, so that the only
slots are the marks (`expand_flatMap_templateChar`). A compiled query is therefore a well-formed
template that uses up its arguments and expands to the filled text, and it is the text itself
when there is nothing to put in (`Compiler.expand_query`).

`Predicate.searchText` is what reaches the search engine, whichever of the two forms the query
has. It is the filled text of the draft in both (`Draft.searchText_eq`), so clauses compiled
together mean what they mean apart, joined by `and` (`Compiler.searchText_append`).
-/

namespace HybridQuery

/-! ## Reading a template -/

/-- The text that a `format` template gives, with the values that are left over. -/
def expand : List Char → List String → Option (List Char × List String)
  | [], values => some ([], values)
  | c :: rest, values =>
    if c = '%' then
      match rest with
      | [] => none
      | d :: others =>
        if d = '%' then (expand others values).map (Prod.map ('%' :: ·) id)
        else if d = 's' then
          match values with
          | [] => none
          | value :: more => (expand others more).map (Prod.map (value.toList ++ ·) id)
        else none
    else (expand rest values).map (Prod.map (c :: ·) id)

theorem expand_percent (rest : List Char) (values : List String) :
    expand ('%' :: '%' :: rest) values = (expand rest values).map (Prod.map ('%' :: ·) id) := by
  simp [expand]

theorem expand_slot (rest : List Char) (value : String) (values : List String) :
    expand ('%' :: 's' :: rest) (value :: values) =
      (expand rest values).map (Prod.map (value.toList ++ ·) id) := by
  simp [expand]

theorem expand_cons_of_ne {c : Char} (h : c ≠ '%') (rest : List Char) (values : List String) :
    expand (c :: rest) values = (expand rest values).map (Prod.map (c :: ·) id) := by
  rw [expand.eq_def]
  exact if_neg h

/-! ## Filling in marks -/

/-- The text with its marks, from left to right, replaced by the values in double quotes. -/
def fill : List Char → List String → List Char
  | [], _ => []
  | c :: rest, values =>
    if c = mark then
      match values with
      | [] => c :: fill rest []
      | value :: more => '"' :: (value.toList ++ '"' :: fill rest more)
    else c :: fill rest values

theorem fill_mark (rest : List Char) (value : String) (values : List String) :
    fill (mark :: rest) (value :: values) = '"' :: (value.toList ++ '"' :: fill rest values) := by
  simp [fill]

theorem fill_cons_of_ne {c : Char} (h : c ≠ mark) (rest : List Char) (values : List String) :
    fill (c :: rest) values = c :: fill rest values := by
  simp [fill, h]

/-- A text without marks has no room for values. -/
theorem fill_of_marks_eq_zero :
    ∀ {text : List Char}, marks text = 0 → ∀ values, fill text values = text
  | [], _, _ => rfl
  | c :: rest, h, values => by
    have hc : c ≠ mark := by
      rintro rfl
      simp at h
    rw [marks_cons_of_ne hc] at h
    rw [fill_cons_of_ne hc, fill_of_marks_eq_zero h]

/-- Each part of a text is filled with the values for its own marks. -/
theorem fill_append (t : List Char) (more : List String) :
    ∀ (s : List Char) (values : List String), values.length = marks s →
      fill (s ++ t) (values ++ more) = fill s values ++ fill t more
  | [], values, h => by
    rw [List.eq_nil_of_length_eq_zero h]
    rfl
  | c :: rest, values, h => by
    by_cases hc : c = mark
    · subst hc
      rw [marks_mark] at h
      obtain ⟨value, others, rfl⟩ := List.exists_cons_of_length_eq_add_one h
      have ih := fill_append t more rest others (by simpa using h)
      rw [List.cons_append, List.cons_append, fill_mark, fill_mark, ih]
      simp
    · rw [marks_cons_of_ne hc] at h
      rw [List.cons_append, fill_cons_of_ne hc, fill_cons_of_ne hc,
        fill_append t more rest values h, List.cons_append]

/-- The text filled with the values. -/
def fillText (text : String) (values : List String) : String :=
  String.ofList (fill text.toList values)

theorem fillText_of_marks_eq_zero {text : String} (h : marks text.toList = 0)
    (values : List String) : fillText text values = text := by
  rw [fillText, fill_of_marks_eq_zero h, String.ofList_toList]

theorem fillText_append {s : String} {values : List String} (h : values.length = marks s.toList)
    (t : String) (more : List String) :
    fillText (s ++ t) (values ++ more) = fillText s values ++ fillText t more := by
  rw [fillText, String.toList_append, fill_append _ more _ values h, String.ofList_append]
  rfl

/-! ## Drafts -/

/-- The percent signs of the text are doubled and its marks are the only slots. -/
theorem expand_flatMap_templateChar (rest : List String) :
    ∀ (text : List Char) (values : List String), values.length = marks text →
      expand (text.flatMap templateChar) (values ++ rest) = some (fill text values, rest)
  | [], values, h => by
    rw [List.eq_nil_of_length_eq_zero h]
    rfl
  | c :: text, values, h => by
    rw [List.flatMap_cons]
    by_cases hmark : c = mark
    · -- the only character whose template uses up a value
      subst hmark
      rw [marks_mark] at h
      obtain ⟨value, others, rfl⟩ := List.exists_cons_of_length_eq_add_one h
      have ih := expand_flatMap_templateChar rest text others (by simpa using h)
      have hchar : templateChar mark = ['"', '%', 's', '"'] := rfl
      rw [hchar, fill_mark]
      simp only [List.cons_append, List.nil_append]
      rw [expand_cons_of_ne (by decide), expand_slot, expand_cons_of_ne (by decide), ih]
      rfl
    · rw [marks_cons_of_ne hmark] at h
      have ih := expand_flatMap_templateChar rest text values h
      rw [fill_cons_of_ne hmark]
      by_cases hpercent : c = '%'
      · subst hpercent
        have hchar : templateChar '%' = ['%', '%'] := rfl
        rw [hchar, List.cons_append, List.cons_append, List.nil_append, expand_percent, ih]
        rfl
      · have hchar : templateChar c = [c] := by
          simp [templateChar, hpercent, hmark]
        rw [hchar, List.cons_append, List.nil_append, expand_cons_of_ne hpercent, ih]
        rfl

namespace Draft

variable {d : Draft} {query : String}

/-- The marks of a draft with a template are its columns. -/
theorem marks_of_template (h : d.template = .ok query) :
    marks d.text.toList = d.columns.length := by
  unfold template at h
  by_contra hne
  rw [if_pos hne] at h
  cases h

theorem template_of_marks (h : marks d.text.toList = d.columns.length) :
    d.template = .ok (if d.columns.isEmpty then d.text
      else String.ofList (d.text.toList.flatMap templateChar)) := by
  unfold template
  rw [if_neg (by simpa using h)]
  split_ifs <;> rfl

/-- Nothing to put in leaves the text as it is. -/
theorem query_of_columns_nil (h : d.template = .ok query) (hnil : d.columns = []) :
    query = d.text := by
  rw [template_of_marks (marks_of_template h), hnil] at h
  exact (Except.ok.inj h).symm

/-- Values for all columns are used up by the template and fill the marks of the text. -/
theorem expand_template (h : d.template = .ok query) (hne : d.columns ≠ []) {values : List String}
    (hlength : values.length = d.columns.length) (rest : List String) :
    expand query.toList (values ++ rest) = some (fill d.text.toList values, rest) := by
  have hmarks := marks_of_template h
  rw [template_of_marks hmarks, if_neg (by simpa using hne)] at h
  rw [← Except.ok.inj h, String.toList_ofList]
  exact expand_flatMap_templateChar rest _ values (hlength.trans hmarks.symm)

end Draft

/-- The query of a compiled search, read as what it is: with arguments it is a well-formed
template that uses up a value for each of them and expands to the rendered text with the values
at its marks; without arguments it is the rendered text. -/
theorem Compiler.expand_query (compiler : Compiler) (clauses : List Clause) (order : Option Order)
    (limit offset : UInt64) (p : Predicate)
    (h : compiler.compile clauses order limit offset = .ok p) :
    ∃ text, (compiler.renderQuery clauses order limit offset).outcome = .ok text ∧
      marks text.toList = p.arguments.length ∧
      (p.arguments = [] → p.query = text) ∧
      (p.arguments ≠ [] → ∀ values rest : List String, values.length = p.arguments.length →
        expand p.query.toList (values ++ rest) = some (fill text.toList values, rest)) := by
  obtain ⟨d, hd, hquery, -, harguments⟩ := compile_eq_ok.mp h
  obtain ⟨htext, -, -⟩ := draft_eq_ok.mp hd
  have hlength : p.arguments.length = d.columns.length := by
    rw [harguments, List.length_map]
  refine ⟨d.text, htext, ?_, fun hnil => ?_, fun hne values rest hvalues => ?_⟩
  · rw [hlength, Draft.marks_of_template hquery]
  · refine Draft.query_of_columns_nil hquery (List.eq_nil_of_length_eq_zero ?_)
    rw [← hlength, hnil, List.length_nil]
  · refine Draft.expand_template hquery (fun hnil => hne ?_) (hvalues.trans hlength) rest
    rw [harguments, hnil, List.map_nil]

/-- A token that ends in a percent sign, right in front of a placeholder. -/
theorem Compiler.expand_query_percent_token :
    ∃ p, Compiler.compile { dialect := Dialect.standard.insert .eq (.token "=%") }
        [Column.eq ⟨"products", "author", .search⟩ (.column ⟨"products", "name", .relational⟩)]
        (some (.column ⟨"products", "50%", .search⟩ .ascending)) 5 10 = .ok p ∧
      expand p.query.toList ["Ann"] =
        some ("#limit(50% asc, 10, 5) author=%\"Ann\"".toList, []) := by
  have hcompile : Compiler.compile { dialect := Dialect.standard.insert .eq (.token "=%") }
      [Column.eq ⟨"products", "author", .search⟩ (.column ⟨"products", "name", .relational⟩)]
      (some (.column ⟨"products", "50%", .search⟩ .ascending)) 5 10 =
        .ok ⟨"products", "#limit(50%% asc, 10, 5) author=%%\"%s\"",
          ["replace(products.name, '\"', '')"]⟩ := rfl
  have hrendered : (Compiler.renderQuery { dialect := Dialect.standard.insert .eq (.token "=%") }
      [Column.eq ⟨"products", "author", .search⟩ (.column ⟨"products", "name", .relational⟩)]
      (some (.column ⟨"products", "50%", .search⟩ .ascending)) 5 10).outcome =
        .ok "#limit(50% asc, 10, 5) author=%\x00" := rfl
  obtain ⟨text, htext, -, -, hexpand⟩ := Compiler.expand_query _ _ _ _ _ _ hcompile
  rw [hrendered] at htext
  cases htext
  have hvalues := hexpand (by simp) ["Ann"] [] rfl
  rw [List.append_nil] at hvalues
  refine ⟨_, hcompile, ?_⟩
  rw [hvalues]
  rfl

/-! ## Joined searches -/

/-- What reaches the search engine when the argument expressions have these values: the query,
or what it expands to if it is a template. -/
def Predicate.searchText (value : String → String) (p : Predicate) : Option String :=
  match p.arguments with
  | [] => some p.query
  | arguments =>
    (expand p.query.toList (arguments.map value)).map fun (text, _) => String.ofList text

/-- The search text is the text of the draft with its marks filled, in both forms of a query. -/
theorem Draft.searchText_eq {d : Draft} {p : Predicate} (hquery : d.template = .ok p.query)
    (hlength : p.arguments.length = d.columns.length) (value : String → String) :
    p.searchText value = some (fillText d.text (p.arguments.map value)) := by
  unfold Predicate.searchText
  split
  · next hnil =>
    rw [hnil] at hlength
    have hcolumns : d.columns = [] := List.eq_nil_of_length_eq_zero hlength.symm
    have hmarks := marks_of_template hquery
    rw [hcolumns] at hmarks
    rw [query_of_columns_nil hquery hcolumns, fillText_of_marks_eq_zero hmarks]
  · next hne =>
    have hcolumns : d.columns ≠ [] := by
      intro hnil
      rw [hnil] at hlength
      exact hne (List.eq_nil_of_length_eq_zero hlength)
    have hexpand := expand_template hquery hcolumns
      (by rw [List.length_map, hlength] : (p.arguments.map value).length = _) []
    rw [List.append_nil] at hexpand
    rw [hexpand]
    rfl

/-- The filled text of two drafts joined by `and` is their filled texts, joined. -/
theorem Draft.fill_and {d e : Draft} {values : List String}
    (h : values.length = marks d.text.toList) (more : List String) :
    fillText (d.and e).text (values ++ more) =
      fillText d.text values ++ " and " ++ fillText e.text more := by
  have hand : fillText " and " [] = " and " := fillText_of_marks_eq_zero rfl []
  have htail := @fillText_append " and " [] rfl e.text more
  rw [List.nil_append, hand] at htail
  rw [Draft.and, String.append_assoc, fillText_append h, htail, String.append_assoc]

theorem Draft.marks_and {d e : Draft} (hd : marks d.text.toList = d.columns.length)
    (he : marks e.text.toList = e.columns.length) :
    marks (d.and e).text.toList = (d.and e).columns.length := by
  have hand : marks " and ".toList = 0 := rfl
  simp only [Draft.and, String.toList_append, marks_append, hand, hd, he, Nat.add_zero,
    List.length_append]

/-- Clauses compiled together search the same table, take the same arguments, and reach the
search engine as the same texts joined by `and`, as when they are compiled apart. One part may
be a template and the other not. -/
theorem Compiler.searchText_append (compiler : Compiler) (value : String → String)
    (clauses others : List Clause) (limit offset : UInt64) (p q : Predicate)
    (hclauses : ∃ c ∈ clauses, ∀ name, c ≠ .declare name) (hne : others ≠ [])
    (hothers : ∀ name, others.head? ≠ some (.declare name))
    (hp : compiler.compile clauses none limit offset = .ok p)
    (hq : compiler.compile others none limit offset = .ok q) (htable : p.table = q.table) :
    ∃ r, compiler.compile (clauses ++ others) none limit offset = .ok r ∧
      r.table = p.table ∧ r.arguments = p.arguments ++ q.arguments ∧
      ∃ s t, p.searchText value = some s ∧ q.searchText value = some t ∧
        r.searchText value = some (s ++ " and " ++ t) := by
  obtain ⟨d, hd, hdquery, hdtable, hdarguments⟩ := compile_eq_ok.mp hp
  obtain ⟨e, he, hequery, hetable, hearguments⟩ := compile_eq_ok.mp hq
  have hdlength : p.arguments.length = d.columns.length := by rw [hdarguments, List.length_map]
  have helength : q.arguments.length = e.columns.length := by rw [hearguments, List.length_map]
  have hmarks := Draft.marks_of_template hdquery
  -- whichever form the parts have, the joined draft has as many marks as columns
  obtain ⟨query, hquery⟩ : ∃ query, (d.and e).template = .ok query :=
    ⟨_, Draft.template_of_marks (Draft.marks_and hmarks (Draft.marks_of_template hequery))⟩
  have htable' : (d.and e).table = .ok p.table := Draft.table_and hdtable (htable ▸ hetable)
  have harguments : p.arguments ++ q.arguments =
      (d.and e).columns.map fun c => argumentSql (compiler.columnSql c) := by
    rw [hdarguments, hearguments, ← List.map_append]
    rfl
  have hlength : (p.arguments ++ q.arguments).length = (d.and e).columns.length := by
    rw [harguments, List.length_map]
  refine ⟨⟨p.table, query, p.arguments ++ q.arguments⟩, ?_, rfl, rfl, _, _,
    Draft.searchText_eq hdquery hdlength value, Draft.searchText_eq hequery helength value, ?_⟩
  · exact compile_eq_ok.mpr
      ⟨d.and e, draft_append hclauses hne hothers hd he, hquery, htable', harguments⟩
  · rw [Draft.searchText_eq (p := ⟨p.table, query, p.arguments ++ q.arguments⟩) hquery hlength
      value, List.map_append, Draft.fill_and (by rw [List.length_map, hdlength, hmarks])]

/-- A percent sign that is alone in the one part and next to a placeholder in the other. -/
theorem Compiler.searchText_append_percent :
    ∃ r, Compiler.compile {}
        ([.declare "products", Column.eq ⟨"products", "author", .search⟩ (.literal (.string "100%"))] ++
          [Column.eq ⟨"products", "author", .search⟩ (.column ⟨"products", "name", .relational⟩)])
        none 0 0 = .ok r ∧
      r.searchText (fun _ => "50%") = some "author:100\\% and author:\"50%\"" := by
  have hplain : Compiler.compile {}
      [.declare "products", Column.eq ⟨"products", "author", .search⟩ (.literal (.string "100%"))]
      none 0 0 = .ok ⟨"products", "author:100\\%", []⟩ := rfl
  have htemplate : Compiler.compile {}
      [Column.eq ⟨"products", "author", .search⟩ (.column ⟨"products", "name", .relational⟩)]
      none 0 0 = .ok ⟨"products", "author:\"%s\"", ["replace(products.name, '\"', '')"]⟩ := rfl
  have hplainText : Predicate.searchText (fun _ => "50%") ⟨"products", "author:100\\%", []⟩ =
      some "author:100\\%" := rfl
  have htemplateText : Predicate.searchText (fun _ => "50%")
      ⟨"products", "author:\"%s\"", ["replace(products.name, '\"', '')"]⟩ =
        some "author:\"50%\"" := by decide +kernel
  obtain ⟨r, hr, -, -, s, t, hs, ht, htext⟩ := Compiler.searchText_append {} (fun _ => "50%")
    _ _ _ _ _ _ ⟨_, List.mem_cons_of_mem _ List.mem_cons_self, fun name h => by cases h⟩ (by simp)
    (fun name h => by cases h) hplain htemplate rfl
  rw [hplainText] at hs
  rw [htemplateText] at ht
  cases hs
  cases ht
  exact ⟨r, hr, htext⟩

end HybridQuery
