import HybridQuery.Proofs.Searchable

/-!
# What is noted on the way

Rendering notes the tables that are searched and the columns whose values are put in. In the search
engine's syntax these are the notes of the nodes of a clause, one node after another
(`log_renderClause`): the table of each column that is compared, the column that it is compared
with, and a column that stands by itself. So the columns of a draft are those of its clauses from
left to right (`Compiler.columns_of_draft`), and its tables are the one that is declared, those
that are compared, and that of the order (`Compiler.tables_of_draft`).
-/

namespace HybridQuery

/-! ## Notes of a node -/

/-- The columns whose values an operand puts into the query. -/
def Operand.columns : Operand → List Column
  | .column c => [c]
  | .literal _ => []
  | .list _ => []

namespace Clause

/-- The columns whose values a node puts into the query, without those of its children. -/
def ownColumns : Clause → List Column
  | .comparison c => c.operand.columns
  | .column c => [c]
  | .group _ _ => []
  | .literal _ => []
  | .compiled _ => []

/-- The columns whose values a clause puts into the query, from left to right. -/
def columns (clause : Clause) : List Column :=
  clause.nodes.flatMap ownColumns

/-- What is noted for a node, without the notes of its children. -/
def ownNotes : Clause → List Note
  | .comparison c => .table c.column.table :: c.operand.columns.map .placeholder
  | .column c => [.placeholder c]
  | .group _ _ => []
  | .literal _ => []
  | .compiled _ => []

/-- What is noted for a clause. -/
def notes (clause : Clause) : List Note :=
  clause.nodes.flatMap ownNotes

theorem notes_leaf {clause : Clause} (h : clause.nodes = [clause]) :
    clause.notes = clause.ownNotes := by
  rw [notes, h, List.flatMap_singleton]

theorem notes_group (combinator : Combinator) (children : List Clause) :
    notes (.group combinator children) = children.flatMap notes := by
  rw [notes, nodes_group, List.flatMap_cons, List.flatMap_assoc]
  rfl

theorem columns_group (combinator : Combinator) (children : List Clause) :
    columns (.group combinator children) = children.flatMap columns := by
  rw [columns, nodes_group, List.flatMap_cons, List.flatMap_assoc]
  rfl

theorem filterMap_column?_ownNotes (node : Clause) :
    node.ownNotes.filterMap Note.column? = node.ownColumns := by
  cases node with
  | comparison c =>
    obtain ⟨column, operator, operand⟩ := c
    cases operand <;> rfl
  | column c => rfl
  | group _ _ | literal _ | compiled _ => rfl

/-- The columns of a clause are those it has placeholders for. -/
theorem filterMap_column?_notes (clause : Clause) :
    clause.notes.filterMap Note.column? = clause.columns := by
  rw [notes, List.filterMap_flatMap, columns]
  exact List.flatMap_congr fun node _ => filterMap_column?_ownNotes node

/-- The tables of a clause are those of the columns that are compared in it. -/
theorem filterMap_table?_notes (clause : Clause) :
    clause.notes.filterMap Note.table? = clause.comparisons.map fun c => c.column.table := by
  induction clause with
  | comparison c =>
    obtain ⟨column, operator, operand⟩ := c
    cases operand <;> rfl
  | group combinator children ih =>
    rw [notes_group, comparisons_group, List.filterMap_flatMap, List.map_flatMap]
    exact List.flatMap_congr ih
  | literal _ | column _ | compiled _ => rfl

end Clause

/-! ## Rendered clauses -/

section Rendering

variable (nested : Clause → Rendered)

theorem leaves_renderOperand (operand : Operand) :
    Logged.Leaves (operand.columns.map .placeholder) (renderOperand operand) := by
  cases operand with
  | literal value => exact .lift _
  | column c => exact fun _ _ => rfl
  | list values => exact .lift _

theorem leaves_withOperand (lead : String) (operand : Operand) :
    Logged.Leaves (operand.columns.map .placeholder)
      ((Script.withOperand lead operand).run nested) := by
  rw [Script.run_withOperand]
  exact (leaves_renderOperand operand).map _

/-- A script of the search engine's syntax that has a text leaves the note of its operand. -/
theorem leaves_between (c : Column) (operand : Operand) :
    Logged.Leaves (operand.columns.map .placeholder)
      ((Script.between c operand).run nested) := by
  match operand with
  | .literal _ | .column _ | .list [] | .list [_] | .list (_ :: _ :: _ :: _) => exact .fail _
  | .list [low, high] =>
    rw [Script.between]
    split_ifs
    · exact .fail _
    · exact .fail _
    · exact .lift _

theorem leaves_like (c : Column) (operand : Operand) :
    Logged.Leaves (operand.columns.map .placeholder) ((Script.like c operand).run nested) := by
  cases operand with
  | column other => exact leaves_withOperand nested _ _
  | list values => exact .fail _
  | literal value =>
    cases value with
    | phrase phrase => exact leaves_withOperand nested _ _
    | pattern _ | string _ | integer _ | float _ | boolean _ | null | raw _ | table _
    | dateTime _ => exact .lift _

theorem leaves_isIn (c : Column) (operand : Operand) :
    Logged.Leaves (operand.columns.map .placeholder) ((Script.isIn c operand).run nested) := by
  cases operand with
  | literal _ | column _ => exact .fail _
  | list values =>
    rw [Script.isIn]
    split_ifs
    · exact leaves_withOperand nested _ _
    · exact .fail _

/-- The table of the compared column is noted first, then the column it is compared with. -/
theorem leaves_renderComparison (c : Comparison) :
    Logged.Leaves (.table c.column.table :: c.operand.columns.map .placeholder)
      (renderComparison .standard nested c) := by
  obtain ⟨column, operator, operand⟩ := c
  cases operator with
  | eq | ne | gt | gte | lt | lte | «matches» | isNot =>
    rw [renderComparison_token nested rfl]
    exact ((leaves_renderOperand operand).map _).note _
  | like =>
    rw [renderComparison_script nested rfl]
    exact (leaves_like nested column operand).note _
  | between =>
    rw [renderComparison_script nested rfl]
    exact (leaves_between nested column operand).note _
  | isIn =>
    rw [renderComparison_script nested rfl]
    exact (leaves_isIn nested column operand).note _

/-- A rendered clause leaves the notes of its nodes, one after another. -/
theorem leaves_renderClause (clause : Clause) :
    Logged.Leaves clause.notes (renderClause .standard nested clause) := by
  induction clause with
  | comparison c =>
    rw [Clause.notes_leaf rfl]
    exact leaves_renderComparison nested c
  | group combinator children ih =>
    by_cases hne : children = []
    · subst hne
      exact .fail _
    · rw [renderClause_group nested _ _ hne, Clause.notes_group]
      exact (Logged.Leaves.each ih).map _
  | literal value => exact .lift _
  | column c => exact fun _ _ => rfl
  | compiled p => exact .fail _

end Rendering

/-! ## Drafts -/

/-- The table that the first clause declares. -/
def Clause.declared : List Clause → List String
  | .literal (.table name) :: _ => [name]
  | _ => []

/-- The table of the column that is ordered by. -/
def Order.tables : Order → List String
  | .column c _ => [c.table]
  | .score _ => []

theorem Clause.mem_declared {name : String} {clauses : List Clause} :
    name ∈ declared clauses ↔ clauses.head? = some (.declare name) := by
  unfold declared
  split
  · simp [declare, eq_comm]
  · next h =>
    refine iff_of_false List.not_mem_nil fun hhead => ?_
    obtain ⟨rest, rfl⟩ := List.head?_eq_some_iff.mp hhead
    exact h name rest rfl

namespace Compiler

variable {columnSql : Column → String} {nesting : Nat} {clauses : List Clause}
  {order : Option Order} {limit offset : UInt64} {d : Draft}

theorem leaves_renderAll :
    Logged.Leaves ((Clause.declared clauses).map .table ++ clauses.flatMap Clause.notes)
      (renderAll ⟨.standard, columnSql, nesting⟩ clauses) := by
  obtain ⟨nested, hnested⟩ := render_eq_renderClause ⟨.standard, columnSql, nesting⟩
  have heach (body : List Clause) : Logged.Leaves (body.flatMap Clause.notes)
      (Logged.each (render ⟨.standard, columnSql, nesting⟩) body) := by
    rw [hnested]
    exact .each fun clause _ => leaves_renderClause nested clause
  rcases declares_or_not clauses with ⟨name, rest, rfl⟩ | hhead
  · exact (heach rest).note _
  · have hnone : Clause.declared clauses = [] :=
      List.eq_nil_iff_forall_not_mem.mpr fun name h => hhead name (Clause.mem_declared.mp h)
    rw [renderAll_of_not_declare hhead, hnone]
    exact heach clauses

theorem leaves_renderOrder :
    Logged.Leaves ((order.toList.flatMap Order.tables).map .table)
      (renderOrder limit offset order) := by
  match order with
  | none => exact .pure _
  | some (.column c direction) => exact .note (Note.table c.table) (.pure _)
  | some (.score direction) => exact .pure _

/-- What a compilation notes, from the declared table to that of the order. -/
theorem leaves_renderQuery :
    Logged.Leaves ((Clause.declared clauses).map .table ++ clauses.flatMap Clause.notes ++
        (order.toList.flatMap Order.tables).map .table)
      (renderQuery ⟨.standard, columnSql, nesting⟩ clauses order limit offset) :=
  leaves_renderAll.bind fun _ => leaves_renderOrder.map _

theorem filterMap_column?_tables (names : List String) :
    (names.map Note.table).filterMap Note.column? = [] := by
  rw [List.filterMap_map]
  exact List.filterMap_eq_nil_iff.mpr fun name _ => rfl

theorem filterMap_table?_tables (names : List String) :
    (names.map Note.table).filterMap Note.table? = names := by
  rw [List.filterMap_map]
  exact List.filterMap_some

/-- The columns of a draft are those that its clauses put in, in order. -/
theorem columns_of_draft
    (h : draft ⟨.standard, columnSql, nesting⟩ clauses order limit offset = .ok d) :
    d.columns = clauses.flatMap Clause.columns := by
  obtain ⟨htext, hcolumns, -⟩ := draft_eq_ok.mp h
  rw [hcolumns, leaves_renderQuery _ htext, List.filterMap_append, List.filterMap_append,
    filterMap_column?_tables, filterMap_column?_tables, List.nil_append, List.append_nil,
    List.filterMap_flatMap]
  exact List.flatMap_congr fun clause _ => clause.filterMap_column?_notes

/-- The tables of a draft are the declared one, those of the columns that are compared, and that of
the order. -/
theorem tables_of_draft
    (h : draft ⟨.standard, columnSql, nesting⟩ clauses order limit offset = .ok d) :
    d.tables = Clause.declared clauses ++
      (Clause.comparisonsAll clauses).map (fun c => c.column.table) ++
        order.toList.flatMap Order.tables := by
  obtain ⟨htext, -, htables⟩ := draft_eq_ok.mp h
  have hcompared : (clauses.flatMap Clause.notes).filterMap Note.table? =
      (Clause.comparisonsAll clauses).map fun c => c.column.table := by
    rw [Clause.comparisonsAll_eq, List.filterMap_flatMap, List.map_flatMap]
    exact List.flatMap_congr fun clause _ => clause.filterMap_table?_notes
  rw [htables, leaves_renderQuery _ htext, List.filterMap_append, List.filterMap_append,
    filterMap_table?_tables, filterMap_table?_tables, hcompared]

end Compiler

end HybridQuery
