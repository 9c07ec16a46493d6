import HybridQuery.Proofs.Paging
import HybridQuery.Proofs.SearchedTable

/-!
# Fusing an order into a search

An order that is fused puts a front before the text of a draft and adds the table of its column
(`Draft.fuse`). The clauses are rendered as without it (`Compiler.draft_fuse`), so of a search that
compiles by itself only two things can change: its marks, by a mark in the name of the column, and
its table, by a column of another one. If neither does, the query gets a front and everything else
stays (`Compiler.compile_fused`).
-/

namespace HybridQuery

/-! ## Fused drafts -/

/-- A draft behind an order with its limit and offset. -/
def Draft.fuse (d : Draft) (o : Order) (limit offset : UInt64) : Draft :=
  ⟨limitText o.field o.direction limit offset ++ d.text, d.columns, d.tables ++ o.tables⟩

namespace Draft

variable {d : Draft} {query table : String} (limit offset : UInt64)

/-- Of a front only the field can hold marks. -/
theorem marks_fuse (o : Order) :
    marks (d.fuse o limit offset).text.toList = marks o.field.toList + marks d.text.toList := by
  rw [fuse, String.toList_append, marks_append]
  exact congrArg (· + marks d.text.toList) (marksOf_limitText o.field o.direction limit offset)

/-- A template gets the front, with percent signs written as in the rest of it. -/
theorem template_fuse {o : Order} (hfield : mark ∉ o.field.toList) (h : d.template = .ok query) :
    (d.fuse o limit offset).template =
      .ok (limitText (if d.columns = [] then o.field else doublePercent o.field) o.direction
        limit offset ++ query) := by
  have hmarks : marks (d.fuse o limit offset).text.toList = d.columns.length := by
    rw [marks_fuse, marks_of_template h, marks, List.count_eq_zero_of_not_mem hfield, Nat.zero_add]
  rw [template_of_marks (d := d.fuse o limit offset) hmarks]
  rw [template_of_marks (marks_of_template h)] at h
  rw [← Except.ok.inj h]
  by_cases hcolumns : d.columns = []
  · simp [fuse, hcolumns]
  · -- the text becomes a template as a whole, the front with the rest
    simp only [fuse, List.isEmpty_iff, hcolumns, if_false, String.toList_append,
      List.flatMap_append, flatMap_templateChar_limitText hfield, String.ofList_append,
      String.ofList_toList]

/-- A mark in the field is one more than there are columns to put in. -/
theorem template_fuse_of_mark {o : Order} (hfield : mark ∈ o.field.toList)
    (h : d.template = .ok query) :
    (d.fuse o limit offset).template = .error (.invalidParameter .strayMark) := by
  have hpos : 0 < marks o.field.toList := List.count_pos_iff.mpr hfield
  have hmarks := marks_fuse (d := d) limit offset o
  rw [marks_of_template h] at hmarks
  rw [template, if_pos]
  rw [hmarks]
  exact (Nat.lt_add_of_pos_left hpos).ne'

theorem table_fuse {o : Order} (h : d.table = .ok table) (ho : ∀ name ∈ o.tables, name = table) :
    (d.fuse o limit offset).table = .ok table := by
  obtain ⟨hne, hall⟩ := table_eq_ok.mp h
  refine table_eq_ok.mpr ⟨List.append_ne_nil_of_left_ne_nil hne _, fun name hname => ?_⟩
  exact (List.mem_append.mp hname).elim (hall name) (ho name)

/-- A column of another table makes two of them. -/
theorem table_fuse_of_ne {c : Column} (direction : Direction) (h : d.table = .ok table)
    (hne : c.table ≠ table) :
    (d.fuse (.column c direction) limit offset).table =
      .error (.ambiguousTable
        (if c.table < table then [c.table, table] else [table, c.table])) := by
  obtain ⟨hnil, hall⟩ := table_eq_ok.mp h
  obtain ⟨first, hfirst⟩ := List.exists_mem_of_ne_nil _ hnil
  have htable : table ∈ d.tables := hall first hfirst ▸ hfirst
  have hmem (name : String) : name ∈ (d.fuse (.column c direction) limit offset).tables ↔
      name = table ∨ name = c.table := by
    rw [fuse, List.mem_append]
    refine or_congr ⟨hall name, ?_⟩ List.mem_singleton
    rintro rfl
    exact htable
  have hpair : ascending (d.fuse (.column c direction) limit offset).tables =
      if c.table < table then [c.table, table] else [table, c.table] := by
    split_ifs with hlt
    · refine ascending_eq_of_mem_iff (List.pairwise_pair.mpr hlt) fun name => ?_
      rw [hmem, List.mem_pair, or_comm]
    · have hgt : table < c.table := lt_of_not_lt_of_ne hlt hne
      refine ascending_eq_of_mem_iff (List.pairwise_pair.mpr hgt) fun name => ?_
      rw [hmem, List.mem_pair]
  rw [Draft.table, hpair]
  split_ifs <;> rfl

end Draft

/-! ## Fused searches -/

namespace Compiler

variable {compiler : Compiler} {clauses : List Clause} {limit' offset' : UInt64}

/-- The clauses are rendered as without an order. -/
theorem draft_fuse {d : Draft} (h : compiler.draft clauses none limit' offset' = .ok d)
    (o : Order) (limit offset : UInt64) :
    compiler.draft clauses (some o) limit offset = .ok (d.fuse o limit offset) := by
  obtain ⟨texts, htexts, htext, hcolumns, htables⟩ := draft_none_eq_ok.mp h
  have hfront := outcome_renderOrder limit offset o
  have hlog : (compiler.renderQuery clauses (some o) limit offset).log =
      (compiler.renderAll clauses).log ++ o.tables.map .table := by
    rw [renderQuery, Logged.log_bind htexts, Logged.log_bind hfront, leaves_renderOrder _ hfront,
      Option.toList_some, List.flatMap_singleton, Logged.log_pure, List.append_nil]
  rw [draft_eq_ok, hlog, List.filterMap_append, List.filterMap_append, filterMap_column?_tables,
    filterMap_table?_tables, List.append_nil, ← hcolumns, ← htables]
  refine ⟨Logged.bind_eq_ok.mpr ⟨texts, htexts, Logged.bind_eq_ok.mpr ⟨_, hfront, ?_⟩⟩, rfl, rfl⟩
  rw [Draft.fuse, htext]
  rfl

/-- An order that is fused into a search which compiles without it. By the score, or by a column of
the same table, it gives the query a front, in which a percent sign of the field is doubled if
there is something to put in, and the table and the arguments stay. By a column of another table it
makes the table ambiguous. If the name of the column holds a mark, that comes first. -/
theorem compile_fused {p : Predicate} (h : compiler.compile clauses none limit' offset' = .ok p)
    (limit offset : UInt64) :
    (∀ o : Order,
      (∀ c direction, o = .column c direction → c.table = p.table ∧ mark ∉ c.name.toList) →
        compiler.compile clauses (some o) limit offset = .ok { p with
          query := "#limit(" ++ (if p.arguments = [] then o.field else doublePercent o.field) ++
            " " ++ o.direction.text ++ ", " ++ naturalText offset.toNat ++ ", " ++
            naturalText limit.toNat ++ ") " ++ p.query }) ∧
    (∀ c direction, c.table ≠ p.table → mark ∉ c.name.toList →
      compiler.compile clauses (some (.column c direction)) limit offset =
        .error (.ambiguousTable
          (if c.table < p.table then [c.table, p.table] else [p.table, c.table]))) ∧
    ∀ c direction, mark ∈ c.name.toList →
      compiler.compile clauses (some (.column c direction)) limit offset =
        .error (.invalidParameter .strayMark) := by
  obtain ⟨d, hd, hquery, htable, harguments⟩ := compile_eq_ok.mp h
  refine ⟨fun o ho => ?_, fun c direction hne hname => ?_, fun c direction hname => ?_⟩
  · obtain ⟨htables, hfield⟩ :
        (∀ name ∈ o.tables, name = p.table) ∧ mark ∉ o.field.toList := by
      cases o with
      | column c direction =>
        obtain ⟨hsame, hname⟩ := ho c direction rfl
        exact ⟨fun name hmem => (List.mem_singleton.mp hmem).trans hsame, hname⟩
      | score direction =>
        refine ⟨fun name hmem => absurd hmem List.not_mem_nil, ?_⟩
        rw [Order.field]
        decide
    have hnil : p.arguments = [] ↔ d.columns = [] := by rw [harguments, List.map_eq_nil_iff]
    refine compile_eq_ok.mpr ⟨_, draft_fuse hd o limit offset, ?_,
      Draft.table_fuse limit offset htable htables, harguments⟩
    rw [Draft.template_fuse limit offset hfield hquery]
    simp only [hnil]
    rfl
  · rw [compile_of_template (draft_fuse hd _ limit offset)
      (Draft.template_fuse limit offset (o := .column c direction) hname hquery),
      Draft.table_fuse_of_ne limit offset direction htable hne]
    rfl
  · exact compile_eq_error.mpr (.inr ⟨_, draft_fuse hd _ limit offset,
      .inl (Draft.template_fuse_of_mark limit offset hname hquery)⟩)

/-- A percent sign in the field of a template, a column of another table, and a mark in the name of
such a column. -/
theorem compile_fused_percent :
    ∃ (clauses : List Clause) (p : Predicate),
      clauses = [Column.eq ⟨"products", "author", .search⟩
        (.column ⟨"products", "name", .relational⟩)] ∧
      p = ⟨"products", "author:\"%s\"", ["replace(products.name, '\"', '')"]⟩ ∧
      compile {} clauses none 0 0 = .ok p ∧
      compile {} clauses (some (.column ⟨"products", "sale%", .search⟩ .descending)) 10 30 =
        .ok { p with query := "#limit(sale%% desc, 30, 10) author:\"%s\"" } ∧
      compile {} clauses (some (.column ⟨"offers", "price", .search⟩ .ascending)) 10 30 =
        .error (.ambiguousTable ["offers", "products"]) ∧
      compile {} clauses (some (.column ⟨"offers", "\x00price", .search⟩ .ascending)) 10 30 =
        .error (.invalidParameter .strayMark) := by
  have hplain : compile {} [Column.eq ⟨"products", "author", .search⟩
      (.column ⟨"products", "name", .relational⟩)] none 0 0 =
        .ok ⟨"products", "author:\"%s\"", ["replace(products.name, '\"', '')"]⟩ := rfl
  obtain ⟨hfused, hother, hmark⟩ := compile_fused hplain 10 30
  refine ⟨_, _, rfl, rfl, hplain, ?_, hother _ _ (by decide) (by decide), hmark _ _ (by decide)⟩
  refine hfused (.column ⟨"products", "sale%", .search⟩ .descending) fun c direction hc => ?_
  cases hc
  exact ⟨rfl, by decide⟩

end Compiler

end HybridQuery
