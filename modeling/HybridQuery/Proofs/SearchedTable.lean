import HybridQuery.Proofs.Notes
import Mathlib.Data.Set.Insert

/-!
# Which table is searched

A search is about the table that is declared, those of the columns it compares, and that of the
column it is ordered by (`searchedTables`). The columns whose values are put in only have to be
known when the search runs, and their tables do not count.

A draft with a template fails for want of a single table or not at all
(`Compiler.compile_of_template`), so the set of its tables decides what becomes of it
(`Compiler.compile_table`).
-/

namespace HybridQuery

/-- The tables that a search is about. -/
def searchedTables (clauses : List Clause) (order : Option Order) : Set String :=
  {name | clauses.head? = some (.declare name) ∨
    (∃ c ∈ Clause.comparisonsAll clauses, c.column.table = name) ∨
    ∃ c direction, order = some (.column c direction) ∧ c.table = name}

/-! ## Tables of a draft -/

namespace Draft

variable {d : Draft} {tables : Set String}

theorem table_eq_noFilterTable_iff (h : ∀ name, name ∈ d.tables ↔ name ∈ tables) :
    d.table = .error .noFilterTable ↔ tables = ∅ := by
  rw [table_eq_noFilterTable, List.eq_nil_iff_forall_not_mem, Set.eq_empty_iff_forall_notMem]
  exact forall_congr' fun name => (h name).not

theorem table_eq_ok_iff (h : ∀ name, name ∈ d.tables ↔ name ∈ tables) (table : String) :
    d.table = .ok table ↔ tables = {table} := by
  rw [table_eq_ok, Set.eq_singleton_iff_nonempty_unique_mem]
  refine and_congr ?_ (forall_congr' fun name => imp_congr_left (h name))
  rw [Ne, List.eq_nil_iff_forall_not_mem, not_forall_not]
  exact exists_congr h

end Draft

/-! ## Compiled clauses -/

namespace Compiler

/-- With a template only the table is left to be found. -/
theorem compile_of_template {compiler : Compiler} {clauses : List Clause} {order : Option Order}
    {limit offset : UInt64} {d : Draft} {query : String}
    (hd : compiler.draft clauses order limit offset = .ok d) (hquery : d.template = .ok query) :
    compiler.compile clauses order limit offset =
      d.table.map fun table =>
        ⟨table, query, d.columns.map fun c => argumentSql (compiler.columnSql c)⟩ := by
  rw [compile, hd]
  simp only [Bind.bind, Except.bind, hquery]
  cases d.table <;> rfl

variable (columnSql : Column → String) (nesting : Nat) (clauses : List Clause)
  (order : Option Order) (limit offset : UInt64)

/-- What can be searched has a draft with a template. -/
theorem exists_template_of_searchable (h : Searchable clauses order) : ∃ d query,
    draft ⟨.standard, columnSql, nesting⟩ clauses order limit offset = .ok d ∧
      d.template = .ok query := by
  have hquery := accounts_renderQuery columnSql nesting clauses order limit offset
  rw [marksAll_eq_zero_iff.mpr h.texts] at hquery
  unfold draft
  generalize renderQuery ⟨.standard, columnSql, nesting⟩ clauses order limit offset =
    rendered at hquery
  cases hquery with
  | error hvalid herror => exact absurd h.nodes hvalid
  | ok hvalid hcount => exact ⟨_, _, rfl, Draft.template_of_marks hcount⟩

theorem mem_tables_iff {d : Draft}
    (h : draft ⟨.standard, columnSql, nesting⟩ clauses order limit offset = .ok d) (name : String) :
    name ∈ d.tables ↔ name ∈ searchedTables clauses order := by
  have horder : name ∈ order.toList.flatMap Order.tables ↔
      ∃ c direction, order = some (.column c direction) ∧ c.table = name := by
    match order with
    | none => simp
    | some (.column c direction) => simp [Order.tables, eq_comm]
    | some (.score direction) => simp [Order.tables]
  rw [tables_of_draft h, List.mem_append, List.mem_append, Clause.mem_declared, List.mem_map,
    horder, or_assoc]
  rfl

/-- Clauses and an order that can be searched are compiled exactly if they are about a single
table. If they are about none that is the error, and if they are about more, these are named, each
once and in the order of their characters. -/
theorem compile_table (h : Searchable clauses order) :
    (compile ⟨.standard, columnSql, nesting⟩ clauses order limit offset = .error .noFilterTable ↔
      searchedTables clauses order = ∅) ∧
    (∀ table,
      (∃ p, compile ⟨.standard, columnSql, nesting⟩ clauses order limit offset = .ok p ∧
        p.table = table) ↔ searchedTables clauses order = {table}) ∧
    (searchedTables clauses order ≠ ∅ → (∀ table, searchedTables clauses order ≠ {table}) →
      ∃ names, compile ⟨.standard, columnSql, nesting⟩ clauses order limit offset =
          .error (.ambiguousTable names) ∧
        names.Pairwise (· < ·) ∧ ∀ name, name ∈ names ↔ name ∈ searchedTables clauses order) := by
  obtain ⟨d, query, hd, hquery⟩ :=
    exists_template_of_searchable columnSql nesting clauses order limit offset h
  have htables := mem_tables_iff columnSql nesting clauses order limit offset hd
  have hnone := Draft.table_eq_noFilterTable_iff htables
  have hone := Draft.table_eq_ok_iff htables
  rw [compile_of_template hd hquery]
  refine ⟨?_, fun table => ?_, fun hne hnot => ⟨ascending d.tables, ?_, pairwise_ascending _, ?_⟩⟩
  · rw [← hnone]
    cases d.table <;> simp [Except.map]
  · rw [← hone table]
    cases d.table <;> simp [Except.map]
  · have htable : d.table = .error (.ambiguousTable (ascending d.tables)) :=
      Draft.table_of_ambiguous (fun hnil => hne (hnone.mp (Draft.table_eq_noFilterTable.mpr hnil)))
        fun table heq => hnot table ((hone table).mp heq)
    rw [htable]
    rfl
  · exact fun name => mem_ascending.trans (htables name)

/-- A declared table, one that is compared deep in a group, and that of the order, which is the
first one again. The tables of the columns that are put in are not named. -/
theorem compile_table_ambiguous :
    ∃ (clauses : List Clause) (order : Option Order),
      clauses = [.declare "orders",
        .any [Column.eq ⟨"products", "author", .search⟩ (.column ⟨"people", "name", .relational⟩),
          .all [Column.gt ⟨"Offers", "price", .search⟩ (.literal (.integer 5))]],
        .column ⟨"notes", "text", .relational⟩] ∧
      order = some (.column ⟨"orders", "date", .search⟩ .descending) ∧
      Searchable clauses order ∧
      ∃ names, compile {} clauses order 10 0 = .error (.ambiguousTable names) ∧
        names = ["Offers", "orders", "products"] ∧
        ∀ name, name ∈ names ↔ name ∈ searchedTables clauses order := by
  refine ⟨_, _, rfl, rfl, ?_⟩
  have hsearchable : Searchable
      [.declare "orders",
        .any [Column.eq ⟨"products", "author", .search⟩ (.column ⟨"people", "name", .relational⟩),
          .all [Column.gt ⟨"Offers", "price", .search⟩ (.literal (.integer 5))]],
        .column ⟨"notes", "text", .relational⟩]
      (some (.column ⟨"orders", "date", .search⟩ .descending)) := by
    refine ⟨?_, by decide⟩
    simp [Clause.undeclared, Clause.declare, Clause.nodesAll, Clause.nodes, Clause.any, Clause.all,
      Column.eq, Column.gt, Column.compare, Clause.IsSearchable, Operand.Fits, Operand.IsValue,
      Literal.IsValue]
  obtain ⟨-, -, hambiguous⟩ := compile_table Column.qualified 100 _ _ 10 0 hsearchable
  obtain ⟨names, hnames, -, hmem⟩ :=
    hambiguous (Set.nonempty_iff_ne_empty.mp ⟨"orders", .inl rfl⟩) fun table hone => by
      have horders : "orders" = table := hone.subset (.inl rfl)
      have hoffers : "Offers" = table :=
        hone.subset (.inr (.inl ⟨_, List.mem_cons_of_mem _ List.mem_cons_self, rfl⟩))
      exact absurd (horders.trans hoffers.symm) (by decide)
  refine ⟨hsearchable, names, hnames, ?_, hmem⟩
  cases hnames
  rfl

end Compiler

end HybridQuery
