import HybridQuery.Proofs.LiteralRelations
import HybridQuery.Proofs.QuotedRuns
import Mathlib.Data.List.DropRight

/-!
# Phrases in their canonical form

The body of a phrase is what is left of it without its double quotes and then without the
backslashes at its end. Whether double quotes are dropped at the ends first makes no difference
(`phraseBody_trimBoth`), and a body is a body of its own (`phraseBody_phraseBody`). A phrase that
may come in double quotes and one that is taken as it stands are therefore written in one way.

Literals are `Interchangeable` if they are of one kind and are written in one way, as the value of a
column and by themselves. Rendering has nothing else to go by, so clauses with interchangeable
literals compile to the same search in the search engine's syntax
(`Compiler.compile_of_interchangeable`).
-/

namespace HybridQuery

/-! ## Bodies of phrases -/

theorem withoutQuotes_dropWhile (text : List Char) :
    withoutQuotes (text.dropWhile (· == '"')) = withoutQuotes text := by
  induction text with
  | nil => rfl
  | cons c rest ih =>
    by_cases hc : c = '"'
    · subst hc
      exact ih
    · rw [List.dropWhile_cons_of_neg (by simpa using hc)]

theorem withoutQuotes_dropTrailing (text : List Char) :
    withoutQuotes (dropTrailing '"' text) = withoutQuotes text := by
  have hreverse := withoutQuotes_dropWhile text.reverse
  unfold withoutQuotes at hreverse ⊢
  rw [dropTrailing, List.filter_reverse, hreverse, List.filter_reverse, List.reverse_reverse]

/-- Double quotes at the two ends are no part of the phrase. -/
theorem phraseBody_trimBoth (text : List Char) :
    phraseBody (trimBoth '"' text) = phraseBody text := by
  rw [phraseBody, trimBoth, withoutQuotes_dropTrailing, withoutQuotes_dropWhile, phraseBody]

theorem dropTrailing_eq_rdropWhile (c : Char) (text : List Char) :
    dropTrailing c text = text.rdropWhile (· == c) := rfl

/-- All that is dropped at the end of a text is a run of the one character. -/
theorem dropTrailing_append_replicate (c : Char) (text : List Char) :
    ∃ n, dropTrailing c text ++ List.replicate n c = text := by
  have hrun : text.rtakeWhile (· == c) = List.replicate (text.rtakeWhile (· == c)).length c :=
    List.eq_replicate_of_mem fun d hd => by simpa using List.mem_rtakeWhile_imp hd
  refine ⟨(text.rtakeWhile (· == c)).length, ?_⟩
  rw [← hrun, dropTrailing_eq_rdropWhile, List.rdropWhile_append_rtakeWhile]

/-- Nothing is left to be dropped. -/
theorem getLast?_dropTrailing (c : Char) (text : List Char) :
    (dropTrailing c text).getLast? ≠ some c := by
  intro hlast
  have hne : dropTrailing c text ≠ [] := by
    intro hnil
    rw [hnil] at hlast
    cases hlast
  rw [List.getLast?_eq_some_getLast hne] at hlast
  exact List.rdropWhile_last_not (· == c) text hne (beq_iff_eq.mpr (Option.some.inj hlast))

theorem withoutQuotes_eq_self {text : List Char} (h : '"' ∉ text) : withoutQuotes text = text :=
  List.filter_eq_self.mpr fun _ hc => decide_eq_true (ne_of_mem_of_not_mem hc h)

theorem phraseBody_phraseBody (phrase : List Char) :
    phraseBody (phraseBody phrase) = phraseBody phrase := by
  rw [phraseBody, withoutQuotes_eq_self (quotable_phraseBody phrase).quote]
  exact List.rdropWhile_idempotent _ _

/-! ## Interchangeable literals -/

/-- Literals of one kind that are written in one way wherever they may stand. -/
structure Literal.Interchangeable (l m : Literal) : Prop where
  kind : l.kind = m.kind
  value : renderLiteral l = renderLiteral m
  standing : renderStanding l = renderStanding m

/-- The same literal, or one phrase of which either side has dropped the double quotes at the
ends. -/
inductive Literal.Requoted : Literal → Literal → Prop
  | same (l : Literal) : Requoted l l
  | left (text : String) : Requoted (phraseOf text) (.phrase text)
  | right (text : String) : Requoted (.phrase text) (phraseOf text)

namespace Literal

variable {l m : Literal}

namespace Interchangeable

theorem symm (h : l.Interchangeable m) : m.Interchangeable l :=
  ⟨h.kind.symm, h.value.symm, h.standing.symm⟩

theorem phraseOf (text : String) : (phraseOf text).Interchangeable (.phrase text) := by
  have hquoted : quotePhrase (String.ofList (trimBoth '"' text.toList)) = quotePhrase text := by
    rw [quotePhrase, String.toList_ofList, phraseBody_trimBoth, quotePhrase]
  refine ⟨rfl, ?_, ?_⟩
  · rw [Literal.phraseOf, renderLiteral, renderLiteral, hquoted]
  · rw [Literal.phraseOf, renderStanding, renderStanding, renderLiteral, renderLiteral, hquoted]

theorem isNumeric (h : l.Interchangeable m) : l.isNumeric = m.isNumeric := by
  have hkind (l : Literal) : l.isNumeric = decide (l.kind = .integer ∨ l.kind = .float) := by
    cases l <;> rfl
  rw [hkind, hkind, h.kind]

theorem isString (h : l.Interchangeable m) : l.isString = m.isString := by
  have hkind (l : Literal) : l.isString = decide (l.kind = .string) := by
    cases l <;> rfl
  rw [hkind, hkind, h.kind]

/-- A table that is declared is not written, but it is named. -/
theorem eq_table {name : String} (h : (Literal.table name).Interchangeable m) :
    m = .table name := by
  have hvalue := h.value
  cases m with
  | table other => cases hvalue; rfl
  | _ => cases h.kind

theorem eq_pattern {pattern : Pattern} (h : (Literal.pattern pattern).Interchangeable m) :
    m = .pattern pattern := by
  have hvalue := h.value
  obtain ⟨source⟩ := pattern
  cases m with
  | pattern other => cases other; cases hvalue; rfl
  | _ => cases h.kind

end Interchangeable

theorem Requoted.interchangeable (h : l.Requoted m) : l.Interchangeable m := by
  cases h with
  | same => exact ⟨rfl, rfl, rfl⟩
  | left text => exact .phraseOf text
  | right text => exact (Interchangeable.phraseOf text).symm

end Literal

/-! ## Rendering -/

section Rendering

variable (nested : Clause → Rendered) (c : Column)

theorem renderOperand_congr {x y : Operand} (h : x.LiftRel Literal.Interchangeable y) :
    renderOperand x = renderOperand y := by
  cases h with
  | literal h => rw [renderOperand, renderOperand, h.value]
  | column c => rfl
  | list h =>
    rw [renderOperand, renderOperand, renderList, renderList, Logged.lift_bind, Logged.lift_bind,
      Logged.lift_mapM, Logged.lift_mapM, Logged.each_congr (h.imp fun l m hlm => ?_)]
    rw [hlm.value]

theorem run_withOperand_congr {x y : Operand} (h : x.LiftRel Literal.Interchangeable y)
    (lead : String) :
    (Script.withOperand lead x).run nested = (Script.withOperand lead y).run nested := by
  rw [Script.run_withOperand, Script.run_withOperand, renderOperand_congr h]

theorem run_between_congr {x y : Operand} (h : x.LiftRel Literal.Interchangeable y) :
    (Script.between c x).run nested = (Script.between c y).run nested := by
  cases h with
  | literal | column => rfl
  | list h =>
    match h with
    | .nil => rfl
    | .cons _ .nil => rfl
    | .cons hlow (.cons hhigh .nil) =>
      rw [Script.between, Script.between, hlow.isNumeric, hlow.kind, hlow.value, hhigh.isNumeric,
        hhigh.kind, hhigh.value]
    | .cons _ (.cons _ (.cons _ hrest)) =>
      simp only [Script.between, List.length_cons, hrest.length_eq]

/-- What is neither a pattern nor a phrase is put between double quotes. -/
theorem Script.like_of_kind {l : Literal} (hpattern : l.kind ≠ .pattern)
    (hphrase : l.kind ≠ .phrase) : Script.like c (.literal l) =
      .done (renderLiteral l >>= fun text => .ok (c.name ++ ":\"" ++ text ++ "\"")) := by
  cases l with
  | pattern p => exact absurd rfl hpattern
  | phrase text => exact absurd rfl hphrase
  | _ => rfl

theorem run_like_congr {x y : Operand} (h : x.LiftRel Literal.Interchangeable y) :
    (Script.like c x).run nested = (Script.like c y).run nested := by
  cases h with
  | column | list => rfl
  | @literal l m h =>
    -- patterns and phrases have forms of their own, all others are put between double quotes
    by_cases hpattern : l.kind = .pattern
    · cases l with
      | pattern p => rw [h.eq_pattern]
      | _ => cases hpattern
    by_cases hphrase : l.kind = .phrase
    · have hphrase' := h.kind.symm.trans hphrase
      cases l with
      | phrase text =>
        cases m with
        | phrase other => exact run_withOperand_congr nested (.literal h) _
        | _ => cases hphrase'
      | _ => cases hphrase
    · rw [Script.like_of_kind c hpattern hphrase, h.value,
        Script.like_of_kind c (h.kind ▸ hpattern) (h.kind ▸ hphrase)]

theorem run_isIn_congr {x y : Operand} (h : x.LiftRel Literal.Interchangeable y) :
    (Script.isIn c x).run nested = (Script.isIn c y).run nested := by
  cases h with
  | literal | column => rfl
  | @list ls ms h =>
    have hkinds : ls.map Literal.kind = ms.map Literal.kind :=
      map_eq_map_of_forall₂ (h.imp fun _ _ => (·.kind))
    have hnumeric : ls.map Literal.isNumeric = ms.map Literal.isNumeric :=
      map_eq_map_of_forall₂ (h.imp fun _ _ => (·.isNumeric))
    have hstrings : ls.map Literal.isString = ms.map Literal.isString :=
      map_eq_map_of_forall₂ (h.imp fun _ _ => (·.isString))
    have hempty : ls.isEmpty = ms.isEmpty := by
      cases h <;> rfl
    have hall (p : Literal → Bool) (ls : List Literal) : ls.all p = (ls.map p).all id := by
      rw [List.all_map]
      rfl
    rw [Script.isIn, Script.isIn, hkinds, hempty, hall Literal.isNumeric, hall Literal.isString,
      hnumeric, hstrings, ← hall, ← hall]
    split_ifs
    · exact run_withOperand_congr nested (.list h) _
    · rfl

theorem renderComparison_congr (operator : Operator) {x y : Operand}
    (h : x.LiftRel Literal.Interchangeable y) :
    renderComparison .standard nested ⟨c, operator, x⟩ =
      renderComparison .standard nested ⟨c, operator, y⟩ := by
  cases operator with
  | eq | ne | gt | gte | lt | lte | «matches» | isNot =>
    rw [renderComparison_token nested rfl, renderComparison_token nested rfl, renderOperand_congr h]
  | like =>
    rw [renderComparison_script nested rfl, renderComparison_script nested rfl,
      run_like_congr nested c h]
  | between =>
    rw [renderComparison_script nested rfl, renderComparison_script nested rfl,
      run_between_congr nested c h]
  | isIn =>
    rw [renderComparison_script nested rfl, renderComparison_script nested rfl,
      run_isIn_congr nested c h]

/-- Clauses with interchangeable literals are written in one way. -/
theorem renderClause_congr {a b : Clause} (h : a.LiftRel Literal.Interchangeable b) :
    renderClause .standard nested a = renderClause .standard nested b := by
  refine h.tree ?comparison ?group ?literal (fun _ => rfl) fun _ => rfl
  case comparison => exact fun c operator x y h => renderComparison_congr nested c operator h
  case group =>
    intro combinator as bs h
    cases h with
    | nil => rfl
    | cons hfirst hrest =>
      rw [renderClause_group nested _ _ (List.cons_ne_nil _ _),
        renderClause_group nested _ _ (List.cons_ne_nil _ _),
        Logged.each_congr (.cons hfirst hrest)]
  case literal =>
    intro l m h
    rw [renderClause, renderClause, h.standing]

end Rendering

/-! ## Searches -/

/-- What declares a table is interchangeable with nothing else. -/
theorem Clause.LiftRel.eq_declare {name : String} {a : Clause}
    (h : (declare name).LiftRel Literal.Interchangeable a) : a = declare name := by
  cases h with
  | literal h => rw [h.eq_table, declare]

namespace Compiler

variable {columnSql : Column → String} {nesting : Nat} {clauses others : List Clause}
  {order : Option Order} {limit offset : UInt64}

theorem renderAll_congr
    (h : List.Forall₂ (Clause.LiftRel Literal.Interchangeable) clauses others) :
    renderAll ⟨.standard, columnSql, nesting⟩ clauses =
      renderAll ⟨.standard, columnSql, nesting⟩ others := by
  obtain ⟨nested, hnested⟩ := render_eq_renderClause ⟨.standard, columnSql, nesting⟩
  have heach {as bs : List Clause}
      (h : List.Forall₂ (Clause.LiftRel Literal.Interchangeable) as bs) :
      Logged.each (render ⟨.standard, columnSql, nesting⟩) as =
        Logged.each (render ⟨.standard, columnSql, nesting⟩) bs := by
    rw [hnested]
    exact Logged.each_congr (h.imp fun _ _ => renderClause_congr nested)
  cases h with
  | nil => rfl
  | @cons first second rest rest' hfirst hrest =>
    -- either both sides declare a table in front or neither does
    rcases declare_or_head?_ne first with ⟨name, rfl⟩ | hhead
    · rw [hfirst.eq_declare, renderAll_declare, renderAll_declare, heach hrest]
    · have hhead' (name : String) : (second :: rest').head? ≠ some (.declare name) := by
        intro heq
        obtain rfl := Option.some.inj heq
        have hback := hfirst.symm fun _ _ => Literal.Interchangeable.symm
        exact hhead rest name (congrArg some hback.eq_declare)
      rw [renderAll_of_not_declare (hhead rest), renderAll_of_not_declare hhead',
        heach (.cons hfirst hrest)]

/-- Clauses with interchangeable literals are the same search. -/
theorem compile_of_interchangeable
    (h : List.Forall₂ (Clause.LiftRel Literal.Interchangeable) clauses others) :
    compile ⟨.standard, columnSql, nesting⟩ clauses order limit offset =
      compile ⟨.standard, columnSql, nesting⟩ others order limit offset := by
  refine compile_congr ?_ rfl
  rw [renderQuery, renderQuery, renderAll_congr h]

end Compiler

/-- A phrase is written as one run between double quotes. Its body has none, does not end in a
backslash, and is the phrase without its double quotes and the backslashes that are then at its end,
so that the body is written as the phrase is. Whether the double quotes at the ends of phrases are
dropped beforehand makes no difference to a search, wherever the phrases stand in its clauses. -/
theorem quotePhrase_canonical :
    (∀ p : String, ∃ body : String,
      quotePhrase p = "\"" ++ body ++ "\"" ∧ IsQuotedRun (quotePhrase p) ∧
      '"' ∉ body.toList ∧ body.toList.getLast? ≠ some '\\' ∧
      (∃ n, body.toList ++ List.replicate n '\\' = withoutQuotes p.toList) ∧
      quotePhrase body = quotePhrase p) ∧
    ∀ (columnSql : Column → String) (nesting : Nat) (clauses others : List Clause)
      (order : Option Order) (limit offset : UInt64),
      List.Forall₂ (Clause.LiftRel Literal.Requoted) clauses others →
        Compiler.compile ⟨.standard, columnSql, nesting⟩ clauses order limit offset =
          Compiler.compile ⟨.standard, columnSql, nesting⟩ others order limit offset := by
  constructor
  · intro p
    obtain ⟨hquote, hshields⟩ := quotable_phraseBody p.toList
    refine ⟨String.ofList (phraseBody p.toList), rfl, (isQuotedRun_iff hquote).mpr hshields, ?_⟩
    rw [String.toList_ofList]
    refine ⟨hquote, getLast?_dropTrailing _ _, dropTrailing_append_replicate _ _, ?_⟩
    rw [quotePhrase, String.toList_ofList, phraseBody_phraseBody, quotePhrase]
  · intro columnSql nesting clauses others order limit offset h
    refine Compiler.compile_of_interchangeable (h.imp fun a b hab => ?_)
    exact hab.mono fun l m hlm => hlm.interchangeable

/-- A phrase that a column is compared with, one in a group, and one that stands by itself. -/
theorem quotePhrase_canonical_nested :
    ∃ (title : Column) (phrase : String) (clauses others : List Clause),
      title = ⟨"products", "title", .search⟩ ∧ phrase = "\"red \"shoes\\\"\\" ∧
      clauses = [title.eq (.literal (.phrase phrase)),
        .any [title.like (.literal (.phrase phrase)), title.gt (.literal (.integer 5))],
        .literal (.phrase phrase)] ∧
      others = [title.eq (.literal (.phraseOf phrase)),
        .any [title.like (.literal (.phraseOf phrase)), title.gt (.literal (.integer 5))],
        .literal (.phraseOf phrase)] ∧
      List.Forall₂ (Clause.LiftRel Literal.Requoted) clauses others ∧
      Compiler.compile {} clauses none 0 0 = Compiler.compile {} others none 0 0 ∧
      Compiler.compile {} clauses none 0 0 = .ok ⟨"products",
        "title:\"red shoes\" and (title:\"red shoes\" or title > 5) and \"red shoes\"", []⟩ := by
  have hphrase (c : Column) (operator : Operator) (text : String) :
      (c.compare operator (.literal (.phrase text))).LiftRel Literal.Requoted
        (c.compare operator (.literal (.phraseOf text))) :=
    .comparison c operator (.literal (.right text))
  have hrelated (c : Column) (text : String) : List.Forall₂ (Clause.LiftRel Literal.Requoted)
      [c.eq (.literal (.phrase text)),
        .any [c.like (.literal (.phrase text)), c.gt (.literal (.integer 5))],
        .literal (.phrase text)]
      [c.eq (.literal (.phraseOf text)),
        .any [c.like (.literal (.phraseOf text)), c.gt (.literal (.integer 5))],
        .literal (.phraseOf text)] :=
    .cons (hphrase c .eq text) <|
      .cons (.group .or (.cons (hphrase c .like text)
        (.cons (.comparison c .gt (.literal (.same _))) .nil))) <|
      .cons (.literal (.right text)) .nil
  refine ⟨_, _, _, _, rfl, rfl, rfl, rfl, hrelated _ _, ?_, rfl⟩
  exact quotePhrase_canonical.2 _ _ _ _ none 0 0 (hrelated _ _)

end HybridQuery
