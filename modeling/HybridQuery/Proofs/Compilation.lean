import HybridQuery.Proofs.Logged
import HybridQuery.Search.Compiler
import Mathlib.Data.List.Sort
import Mathlib.Tactic.Common

/-!
# The steps of a compilation

A compilation succeeds if the clauses render, the marks of the draft fit its columns, and a
single table is searched; the predicate is then what the template, the table and the columns of
the draft say (`Compiler.compile_eq_ok`). The tables of a draft are met in any order and any
number of times, `ascending` keeps each of them once (`mem_ascending`, `pairwise_ascending`),
so that a draft has a table if it searches that one and nothing else (`Draft.table_eq_ok`).

Clauses are rendered one by one, and without an order nothing stands in front of them. The
draft of clauses and others after them is therefore the drafts of both, joined by `Draft.and`
(`Compiler.draft_append`).
-/

namespace HybridQuery

/-! ## The table that is searched -/

theorem mem_insertAscending {name other : String} :
    ∀ {names : List String}, other ∈ insertAscending name names ↔ other = name ∨ other ∈ names
  | [] => by simp [insertAscending]
  | first :: rest => by
    unfold insertAscending
    split_ifs with hlt heq
    · simp
    · simp [heq]
    · rw [List.mem_cons, mem_insertAscending, List.mem_cons]
      exact or_left_comm

theorem mem_ascending {name : String} :
    ∀ {names : List String}, name ∈ ascending names ↔ name ∈ names
  | [] => Iff.rfl
  | first :: rest => by
    have ih : name ∈ ascending rest ↔ name ∈ rest := mem_ascending
    rw [List.mem_cons, ← ih]
    exact mem_insertAscending

theorem lt_of_not_lt_of_ne {name other : String} (h : ¬name < other) (hne : name ≠ other) :
    other < name := by
  by_contra hle
  exact hne (String.le_antisymm hle h)

theorem pairwise_insertAscending (name : String) :
    ∀ {names : List String}, names.Pairwise (· < ·) →
      (insertAscending name names).Pairwise (· < ·)
  | [], _ => List.pairwise_singleton _ _
  | first :: rest, h => by
    obtain ⟨hfirst, hrest⟩ := List.pairwise_cons.mp h
    unfold insertAscending
    split_ifs with hlt heq
    · refine List.pairwise_cons.mpr ⟨fun other hother => ?_, h⟩
      rcases List.mem_cons.mp hother with rfl | hother
      · exact hlt
      · exact String.lt_trans hlt (hfirst other hother)
    · exact h
    · have hgt : first < name := by
        by_contra hle
        exact heq (String.le_antisymm hle hlt)
      refine List.pairwise_cons.mpr ⟨fun other hother => ?_, pairwise_insertAscending name hrest⟩
      rcases mem_insertAscending.mp hother with rfl | hother
      · exact hgt
      · exact hfirst other hother

theorem pairwise_ascending : ∀ names : List String, (ascending names).Pairwise (· < ·)
  | [] => List.Pairwise.nil
  | first :: rest => pairwise_insertAscending first (pairwise_ascending rest)

/-- There is only one way to list names, each once, in ascending order. -/
theorem ascending_eq_of_mem_iff {names others : List String} (hsorted : others.Pairwise (· < ·))
    (h : ∀ name, name ∈ others ↔ name ∈ names) : ascending names = others :=
  (pairwise_ascending names).eq_of_mem_iff hsorted fun name => mem_ascending.trans (h name).symm

/-- A single name is left if no other one is listed. -/
theorem ascending_eq_singleton {names : List String} {table : String} :
    ascending names = [table] ↔ names ≠ [] ∧ ∀ name ∈ names, name = table := by
  constructor
  · intro h
    refine ⟨?_, fun name hname => ?_⟩
    · rintro rfl
      cases h
    · rw [← mem_ascending, h] at hname
      exact List.mem_singleton.mp hname
  · rintro ⟨hne, hall⟩
    obtain ⟨first, hfirst⟩ := List.exists_mem_of_ne_nil names hne
    refine ascending_eq_of_mem_iff (List.pairwise_singleton _ _) fun name => ?_
    rw [List.mem_singleton]
    refine ⟨?_, hall name⟩
    rintro rfl
    rwa [← hall first hfirst]

theorem ascending_eq_nil {names : List String} : ascending names = [] ↔ names = [] := by
  simp only [List.eq_nil_iff_forall_not_mem, mem_ascending]

namespace Draft

variable {d : Draft}

/-- A draft has a table if it searches that one and no other. -/
theorem table_eq_ok {table : String} :
    d.table = .ok table ↔ d.tables ≠ [] ∧ ∀ name ∈ d.tables, name = table := by
  rw [← ascending_eq_singleton]
  unfold Draft.table
  split <;> simp_all

theorem table_eq_noFilterTable : d.table = .error .noFilterTable ↔ d.tables = [] := by
  rw [← ascending_eq_nil]
  unfold Draft.table
  split <;> simp_all

/-- Two tables or more are named in order. -/
theorem table_of_ambiguous (hnone : d.tables ≠ []) (hone : ∀ table, d.table ≠ .ok table) :
    d.table = .error (.ambiguousTable (ascending d.tables)) := by
  rw [Ne, ← ascending_eq_nil] at hnone
  unfold Draft.table at hone ⊢
  split
  · next h => exact absurd h hnone
  · next table h =>
    rw [h] at hone
    exact absurd rfl (hone table)
  · rfl

end Draft

/-- Two drafts joined by `and`. -/
def Draft.and (d e : Draft) : Draft :=
  ⟨d.text ++ " and " ++ e.text, d.columns ++ e.columns, d.tables ++ e.tables⟩

theorem Draft.table_and {d e : Draft} {table : String} (hd : d.table = .ok table)
    (he : e.table = .ok table) : (d.and e).table = .ok table := by
  obtain ⟨hne, hall⟩ := Draft.table_eq_ok.mp hd
  obtain ⟨-, hall'⟩ := Draft.table_eq_ok.mp he
  refine Draft.table_eq_ok.mpr ⟨List.append_ne_nil_of_left_ne_nil hne _, fun name hname => ?_⟩
  rcases List.mem_append.mp hname with hname | hname
  · exact hall name hname
  · exact hall' name hname

namespace Compiler

variable {compiler : Compiler} {clauses : List Clause} {order : Option Order}
  {limit offset : UInt64}

/-! ## Drafts and predicates -/

theorem draft_eq_ok {d : Draft} : compiler.draft clauses order limit offset = .ok d ↔
    (compiler.renderQuery clauses order limit offset).outcome = .ok d.text ∧
      d.columns = (compiler.renderQuery clauses order limit offset).log.filterMap Note.column? ∧
      d.tables = (compiler.renderQuery clauses order limit offset).log.filterMap Note.table? := by
  obtain ⟨text, columns, tables⟩ := d
  unfold draft
  generalize compiler.renderQuery clauses order limit offset = rendered
  obtain ⟨log, outcome⟩ := rendered
  cases outcome with
  | error e => simp
  | ok other => simp [eq_comm]

theorem draft_eq_error {e : Error} : compiler.draft clauses order limit offset = .error e ↔
    (compiler.renderQuery clauses order limit offset).outcome = .error e := by
  unfold draft
  generalize compiler.renderQuery clauses order limit offset = rendered
  obtain ⟨log, outcome⟩ := rendered
  cases outcome <;> simp

theorem compile_eq_ok {p : Predicate} : compiler.compile clauses order limit offset = .ok p ↔
    ∃ d, compiler.draft clauses order limit offset = .ok d ∧ d.template = .ok p.query ∧
      d.table = .ok p.table ∧
      p.arguments = d.columns.map fun c => argumentSql (compiler.columnSql c) := by
  obtain ⟨table, query, arguments⟩ := p
  unfold compile
  constructor
  · intro h
    obtain ⟨d, hd, h⟩ := bind_eq_ok.mp h
    obtain ⟨query', hquery, h⟩ := bind_eq_ok.mp h
    obtain ⟨table', htable, h⟩ := bind_eq_ok.mp h
    cases h
    exact ⟨d, hd, hquery, htable, rfl⟩
  · rintro ⟨d, hd, hquery, htable, rfl⟩
    exact bind_eq_ok.mpr ⟨d, hd, bind_eq_ok.mpr ⟨query, hquery,
      bind_eq_ok.mpr ⟨table, htable, rfl⟩⟩⟩

theorem compile_eq_error {e : Error} : compiler.compile clauses order limit offset = .error e ↔
    compiler.draft clauses order limit offset = .error e ∨
      ∃ d, compiler.draft clauses order limit offset = .ok d ∧
        (d.template = .error e ∨ (∃ query, d.template = .ok query) ∧ d.table = .error e) := by
  unfold compile
  rw [bind_eq_error]
  refine or_congr_right (exists_congr fun d => and_congr_right fun _ => ?_)
  rw [bind_eq_error]
  refine or_congr_right ?_
  simp only [bind_eq_error, reduceCtorEq, and_false, exists_false, or_false, exists_and_right]

/-- What is rendered alike compiles alike if columns are written alike. -/
theorem compile_congr {other : Compiler} {others : List Clause}
    (h : other.renderQuery others order limit offset =
      compiler.renderQuery clauses order limit offset)
    (hsql : other.columnSql = compiler.columnSql) :
    other.compile others order limit offset = compiler.compile clauses order limit offset := by
  rw [compile, compile, draft, draft, h, hsql]

/-! ## Clauses after clauses -/

/-- Each clause is rendered in the same way, whatever the scripts are given for theirs. -/
theorem render_eq_renderClause (compiler : Compiler) :
    ∃ nested, compiler.render = renderClause compiler.dialect nested := by
  obtain ⟨dialect, columnSql, nesting⟩ := compiler
  cases nesting <;> exact ⟨_, rfl⟩

/-- Only the first clause can declare the table. -/
theorem renderAll_of_not_declare (h : ∀ name, clauses.head? ≠ some (.declare name)) :
    compiler.renderAll clauses = Logged.each compiler.render clauses := by
  unfold renderAll
  split
  · next name rest => exact absurd rfl (h name)
  · rfl

theorem renderAll_declare (name : String) :
    compiler.renderAll (.declare name :: clauses) =
      Logged.note (.table name) >>= fun _ => Logged.each compiler.render clauses := rfl

/-- The table is declared in front of the clauses, or it is not. -/
theorem declares_or_not (clauses : List Clause) :
    (∃ name rest, clauses = .declare name :: rest) ∨
      ∀ name, clauses.head? ≠ some (.declare name) := by
  by_cases hhead : ∃ name, clauses.head? = some (.declare name)
  · obtain ⟨name, hname⟩ := hhead
    exact .inl ⟨name, List.head?_eq_some_iff.mp hname⟩
  · exact .inr (not_exists.mp hhead)

theorem declare_or_head?_ne (first : Clause) : (∃ name, first = .declare name) ∨
    ∀ (rest : List Clause) (name : String), (first :: rest).head? ≠ some (.declare name) := by
  by_cases hfirst : ∃ name, first = .declare name
  · exact .inl hfirst
  · refine .inr fun rest name heq => hfirst ⟨name, ?_⟩
    exact Option.some.inj heq

/-- Clauses after others are rendered as if they stood alone. -/
theorem renderAll_append (hne : clauses ≠ []) {others : List Clause}
    (h : ∀ name, others.head? ≠ some (.declare name)) :
    compiler.renderAll (clauses ++ others) =
      compiler.renderAll clauses >>= fun texts =>
        compiler.renderAll others >>= fun more => pure (texts ++ more) := by
  obtain ⟨first, rest, rfl⟩ := List.exists_cons_of_ne_nil hne
  rw [renderAll_of_not_declare h]
  rcases declare_or_head?_ne first with ⟨name, rfl⟩ | hhead
  · rw [List.cons_append, renderAll_declare, renderAll_declare, Logged.each_append,
      Logged.bind_assoc]
  · rw [renderAll_of_not_declare (hhead rest), List.cons_append,
      renderAll_of_not_declare (hhead (rest ++ others)), ← List.cons_append, Logged.each_append]

/-- There is a text for each clause that does not declare the table. -/
theorem texts_ne_nil {texts : List String} (h : ∃ c ∈ clauses, ∀ name, c ≠ .declare name)
    (htexts : (compiler.renderAll clauses).outcome = .ok texts) : texts ≠ [] := by
  obtain ⟨c, hc, hdeclare⟩ := h
  rintro rfl
  obtain ⟨first, rest, rfl⟩ := List.exists_cons_of_ne_nil (List.ne_nil_of_mem hc)
  rcases declare_or_head?_ne first with ⟨name, rfl⟩ | hhead
  · rcases List.mem_cons.mp hc with rfl | hc
    · exact hdeclare name rfl
    · rw [renderAll_declare, Logged.outcome_note_bind] at htexts
      have hlength := Logged.length_of_each htexts
      rw [List.eq_nil_of_length_eq_zero hlength.symm] at hc
      cases hc
  · rw [renderAll_of_not_declare (hhead rest)] at htexts
    cases Logged.length_of_each htexts

/-- Without an order the draft has the texts of the clauses and what they leave open. -/
theorem draft_none_eq_ok {d : Draft} : compiler.draft clauses none limit offset = .ok d ↔
    ∃ texts, (compiler.renderAll clauses).outcome = .ok texts ∧
      d.text = " and ".intercalate texts ∧
      d.columns = (compiler.renderAll clauses).log.filterMap Note.column? ∧
      d.tables = (compiler.renderAll clauses).log.filterMap Note.table? := by
  have hquery : compiler.renderQuery clauses none limit offset =
      compiler.renderAll clauses >>= fun texts => pure (" and ".intercalate texts) := by
    simp [renderQuery, renderOrder]
  rw [draft_eq_ok, hquery, Logged.bind_eq_ok]
  constructor
  · rintro ⟨⟨texts, htexts, htext⟩, hcolumns, htables⟩
    rw [Logged.log_bind htexts, Logged.log_pure, List.append_nil] at hcolumns htables
    exact ⟨texts, htexts, (Except.ok.inj htext).symm, hcolumns, htables⟩
  · rintro ⟨texts, htexts, htext, hcolumns, htables⟩
    rw [Logged.log_bind htexts, Logged.log_pure, List.append_nil]
    exact ⟨⟨texts, htexts, by rw [htext]; rfl⟩, hcolumns, htables⟩

/-- The draft of clauses and others after them is made of the drafts of both. -/
theorem draft_append {others : List Clause} {d e : Draft}
    (hclauses : ∃ c ∈ clauses, ∀ name, c ≠ .declare name) (hne : others ≠ [])
    (hothers : ∀ name, others.head? ≠ some (.declare name))
    (hd : compiler.draft clauses none limit offset = .ok d)
    (he : compiler.draft others none limit offset = .ok e) :
    compiler.draft (clauses ++ others) none limit offset = .ok (d.and e) := by
  obtain ⟨texts, htexts, htext, hcolumns, htables⟩ := draft_none_eq_ok.mp hd
  obtain ⟨more, hmore, htext', hcolumns', htables'⟩ := draft_none_eq_ok.mp he
  have htexts0 : texts ≠ [] := texts_ne_nil hclauses htexts
  have hmore0 : more ≠ [] := by
    obtain ⟨first, rest, rfl⟩ := List.exists_cons_of_ne_nil hne
    refine texts_ne_nil ⟨first, List.mem_cons_self, fun name heq => hothers name ?_⟩ hmore
    rw [heq]
    rfl
  obtain ⟨c, hc, -⟩ := hclauses
  rw [draft_none_eq_ok, renderAll_append (List.ne_nil_of_mem hc) hothers, Logged.log_bind htexts,
    Logged.log_bind hmore, Logged.log_pure, List.append_nil, List.filterMap_append,
    List.filterMap_append]
  refine ⟨texts ++ more, ?_, ?_, ?_, ?_⟩
  · exact Logged.bind_eq_ok.mpr ⟨texts, htexts, Logged.bind_eq_ok.mpr ⟨more, hmore, rfl⟩⟩
  · rw [String.intercalate_append_of_ne_nil htexts0 hmore0, ← htext, ← htext']
    rfl
  · rw [← hcolumns, ← hcolumns']
    rfl
  · rw [← htables, ← htables']
    rfl

end Compiler

end HybridQuery
