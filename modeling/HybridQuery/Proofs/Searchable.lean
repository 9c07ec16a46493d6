import HybridQuery.Proofs.Marks
import HybridQuery.Proofs.Template
import HybridQuery.Proofs.Tree

/-!
# What can be searched

The search engine's syntax has a form for some clauses and not for others. Which ones is said here
without rendering anything: each node of a clause has to fit by itself (`Clause.IsSearchable`),
and behind the declaration of the table no node may declare another one.

`Compiler.compile_searchable_iff` is the main statement. A compilation gets as far as the question
which table is searched exactly if its clauses are `Searchable`, and no text in them holds a mark.
All renderers account for their marks (`accounts_renderClause`), so a mark in a text makes one more
than there are columns to put in, wherever it stands.
-/

namespace HybridQuery

/-! ## Values -/

namespace Literal

/-- A literal that a column can be compared with. -/
def IsValue : Literal → Prop
  | .float x => x.isFinite = true
  | .dateTime t => t.HasRoom
  | .pattern _ => False
  | .table _ => False
  | _ => True

/-- An integer or a finite floating point number. -/
def IsNumber : Literal → Prop
  | .integer _ => True
  | .float x => x.isFinite = true
  | _ => False

/-- A literal that can stand by itself. -/
def IsTerm : Literal → Prop
  | .string _ => True
  | .raw _ => True
  | .integer _ => True
  | .phrase _ => True
  | .float x => x.isFinite = true
  | _ => False

/-- The text that a literal brings along, if it has one. -/
def texts : Literal → List String
  | .string text => [text]
  | .raw text => [text]
  | .phrase text => [text]
  | .pattern p => [p.source]
  | _ => []

theorem isNumber_iff {value : Literal} :
    value.IsNumber ↔ value.isNumeric = true ∧ value.IsValue := by
  cases value <;> simp [IsNumber, isNumeric, IsValue]

theorem isValue_of_isString {value : Literal} (h : value.isString = true) : value.IsValue := by
  cases value <;> simp_all [isString, IsValue]

end Literal

/-! ## Operands -/

namespace Operand

/-- An operand that can stand behind a token. -/
def IsValue : Operand → Prop
  | .literal value => value.IsValue
  | .column _ => True
  | .list values => ∀ value ∈ values, value.IsValue

/-- Two numbers. -/
def IsRange : Operand → Prop
  | .list [low, high] => low.IsNumber ∧ high.IsNumber
  | _ => False

/-- Only strings or only numbers, and at least one. -/
def IsChoice : Operand → Prop
  | .list values =>
    values ≠ [] ∧ ((∀ value ∈ values, value.isString = true) ∨ ∀ value ∈ values, value.IsNumber)
  | _ => False

/-- A pattern, or anything else that is a value and not a list. -/
def IsSample : Operand → Prop
  | .literal (.pattern _) => True
  | .literal value => value.IsValue
  | .column _ => True
  | .list _ => False

/-- An operand that the operator has a form for. -/
def Fits (operand : Operand) : Operator → Prop
  | .between => operand.IsRange
  | .isIn => operand.IsChoice
  | .like => operand.IsSample
  | _ => operand.IsValue

/-- The texts that an operand brings along. -/
def texts : Operand → List String
  | .literal value => value.texts
  | .column _ => []
  | .list values => values.flatMap Literal.texts

/-- What the form of `isIn` asks for and what the list in it asks for. -/
theorem isChoice_list_iff {values : List Literal} : (Operand.list values).IsChoice ↔
    (!values.isEmpty && (values.all Literal.isNumeric || values.all Literal.isString)) = true ∧
      ∀ value ∈ values, value.IsValue := by
  simp only [IsChoice, Bool.and_eq_true, Bool.or_eq_true, Bool.not_eq_true', List.all_eq_true,
    List.isEmpty_eq_false_iff, Literal.isNumber_iff]
  constructor
  · rintro ⟨hne, hstrings | hnumbers⟩
    · exact ⟨⟨hne, .inr hstrings⟩, fun v hv => Literal.isValue_of_isString (hstrings v hv)⟩
    · exact ⟨⟨hne, .inl fun v hv => (hnumbers v hv).1⟩, fun v hv => (hnumbers v hv).2⟩
  · rintro ⟨⟨hne, hnumeric | hstrings⟩, hvalues⟩
    · exact ⟨hne, .inr fun v hv => ⟨hnumeric v hv, hvalues v hv⟩⟩
    · exact ⟨hne, .inl hstrings⟩

end Operand

/-! ## Clauses -/

namespace Clause

/-- A node that the search syntax has a form for, whatever its children are. -/
def IsSearchable : Clause → Prop
  | .comparison c => c.operand.Fits c.operator
  | .group _ children => children ≠ []
  | .literal value => value.IsTerm
  | .column _ => True
  | .compiled _ => False

/-- The texts of a node, without those of its children. -/
def ownTexts : Clause → List String
  | .comparison c => c.column.name :: c.operand.texts
  | .literal value => value.texts
  | _ => []

/-- The texts that a clause brings along. -/
def texts (clause : Clause) : List String :=
  clause.nodes.flatMap ownTexts

/-- The clauses behind a declaration of the table. -/
def undeclared : List Clause → List Clause
  | .literal (.table _) :: rest => rest
  | clauses => clauses

theorem undeclared_of_not_declare {clauses : List Clause}
    (h : ∀ name, clauses.head? ≠ some (.declare name)) : undeclared clauses = clauses := by
  unfold undeclared
  split
  · next name rest => exact absurd rfl (h name)
  · rfl

/-- A declaration of the table compares nothing. -/
theorem comparisonsAll_undeclared (clauses : List Clause) :
    comparisonsAll (undeclared clauses) = comparisonsAll clauses := by
  unfold undeclared
  split <;> rfl

end Clause

/-- The clauses behind a declaration are rendered one after another, and of a declaration nothing
but a note is left. -/
theorem Compiler.renderAll_undeclared (compiler : Compiler) (clauses : List Clause) :
    compiler.renderAll clauses = Logged.each compiler.render (Clause.undeclared clauses) ∨
      ∃ name, compiler.renderAll clauses =
        Logged.note (.table name) >>= fun _ =>
          Logged.each compiler.render (Clause.undeclared clauses) := by
  rcases declares_or_not clauses with ⟨name, rest, rfl⟩ | hhead
  · exact .inr ⟨name, renderAll_declare name⟩
  · rw [renderAll_of_not_declare hhead, Clause.undeclared_of_not_declare hhead]
    exact .inl rfl

/-- The name that an order brings along. -/
def Order.texts : Order → List String
  | .column c _ => [c.name]
  | .score _ => []

/-- Clauses and an order that the search syntax has a form for. -/
structure Searchable (clauses : List Clause) (order : Option Order) : Prop where
  /-- The table is declared by the first clause or by none, and every node fits. -/
  nodes : ∀ node ∈ Clause.nodesAll (Clause.undeclared clauses), node.IsSearchable
  /-- No text is taken for a placeholder. -/
  texts : ∀ text ∈ (Clause.undeclared clauses).flatMap Clause.texts ++
    order.toList.flatMap Order.texts, mark ∉ text.toList

/-! ## Rendered values -/

theorem accounts_renderNumber (x : Binary64) :
    Accounts marksOf (x.isFinite = true) 0 (.lift (renderNumber x)) := by
  unfold renderNumber
  split_ifs with h
  · exact .done h (marksOf_of_numeral (Numeral.float h))
  · exact .fail h (by simp [Error.OfTables])

theorem accounts_dateTime (t : DateTime) :
    Accounts marksOf t.HasRoom 0 (.lift (escape <$> t.text)) := by
  rw [← DateTime.isOk_rfc3339_iff, DateTime.text]
  cases h : t.rfc3339 with
  | ok text =>
    refine .done ⟨text, rfl⟩ ?_
    rw [marksOf_escape]
    exact marksOf_of_numeral (Numeral.rfc3339 h)
  | error part => exact .fail (by simp) (by simp [Error.OfTables])

theorem accounts_renderLiteral (value : Literal) :
    Accounts marksOf value.IsValue (marksAll value.texts) (.lift (renderLiteral value)) := by
  cases value with
  | string text => exact .done trivial (marksOf_escape text)
  | integer n => exact .done trivial (marksOf_of_numeral (Numeral.integerText n.toInt))
  | float x => exact accounts_renderNumber x
  | boolean b => cases b <;> exact .done trivial rfl
  | null => exact .done trivial rfl
  | raw text => exact .done trivial rfl
  | phrase text => exact .done trivial (marksOf_quotePhrase text)
  | pattern p => exact .fail id (by simp [Error.OfTables])
  | table name => exact .fail id (by simp [Error.OfTables])
  | dateTime t => exact accounts_dateTime t

theorem accounts_renderStanding (value : Literal) :
    Accounts marksOf value.IsTerm (marksAll value.texts) (.lift (renderStanding value)) := by
  cases value with
  | string text => exact .done trivial rfl
  | raw text => exact .done trivial rfl
  | integer n => exact accounts_renderLiteral (.integer n)
  | float x => exact accounts_renderLiteral (.float x)
  | phrase text => exact accounts_renderLiteral (.phrase text)
  | boolean _ | null | pattern _ | table _ | dateTime _ =>
    exact .fail id (by simp [Error.OfTables])

theorem accounts_renderColumn (c : Column) : Accounts marksOf True 0 (renderColumn c) :=
  .ok trivial rfl

theorem accounts_renderList (values : List Literal) :
    Accounts marksOf (∀ value ∈ values, value.IsValue) (marksAll (values.flatMap Literal.texts))
      (.lift (renderList values)) := by
  have hbrackets : ∀ texts : List String,
      marksOf ("[" ++ ",".intercalate texts ++ "]") = marksAll texts + 0 := by
    intro texts
    rw [marksOf_append_plain rfl, marksOf_plain_append rfl, marksOf_intercalate rfl]
    rfl
  rw [renderList, Logged.lift_bind, Logged.lift_mapM]
  exact (Accounts.each fun value _ => accounts_renderLiteral value).map hbrackets

theorem accounts_renderOperand (operand : Operand) :
    Accounts marksOf operand.IsValue (marksAll operand.texts) (renderOperand operand) := by
  cases operand with
  | literal value => exact accounts_renderLiteral value
  | column c => exact accounts_renderColumn c
  | list values => exact accounts_renderList values

/-! ## Scripts -/

/-- A text that ends in the rendered operand is a step and a text around its result. -/
theorem Script.run_withOperand (nested : Clause → Rendered) (lead : String) (operand : Operand) :
    (Script.withOperand lead operand).run nested =
      renderOperand operand >>= fun text => pure (lead ++ text) := by
  rw [withOperand, run]
  cases h : (renderOperand operand).outcome with
  | ok text =>
    rw [Logged.bind_of_ok h, Logged.andThen, h]
    rfl
  | error e =>
    rw [Logged.bind_of_error h, Logged.andThen, h]
    exact Logged.ext (List.append_nil _) rfl

variable (c : Column) (nested : Clause → Rendered)

theorem accounts_withOperand {lead : String} (operand : Operand) :
    Accounts marksOf operand.IsValue (marksOf lead + marksAll operand.texts)
      ((Script.withOperand lead operand).run nested) := by
  rw [Script.run_withOperand, Nat.add_comm]
  refine (accounts_renderOperand operand).map fun text => ?_
  rw [marksOf_append, Nat.add_comm]

theorem accounts_refuse {fault : ParameterFault} {valid : Prop} {own : Nat} (h : ¬valid) :
    Accounts marksOf valid own ((Script.refuse fault).run nested) :=
  .fail h (by simp [Error.OfTables])

theorem accounts_between (operand : Operand) :
    Accounts marksOf operand.IsRange (marksOf c.name + marksAll operand.texts)
      ((Script.between c operand).run nested) := by
  match operand with
  | .literal _ | .column _ | .list [] | .list [_] | .list (_ :: _ :: _ :: _) =>
    exact accounts_refuse nested id
  | .list [low, high] =>
    have hrange : (Operand.list [low, high]).IsRange ↔
        (low.isNumeric = true ∧ low.IsValue) ∧ high.isNumeric = true ∧ high.IsValue :=
      and_congr Literal.isNumber_iff Literal.isNumber_iff
    rw [Script.between]
    split_ifs with hlow hhigh
    · exact accounts_refuse nested fun h => by simp [(hrange.mp h).1.1] at hlow
    · exact accounts_refuse nested fun h => by simp [(hrange.mp h).2.1] at hhigh
    · have htext (l h : String) : marksOf (c.name ++ ":" ++ l ++ " /to/ " ++ h) =
          marksOf h + (marksOf l + marksOf c.name) := by
        rw [marksOf_append, marksOf_append_plain rfl, marksOf_append, marksOf_append_plain rfl]
        omega
      have hrest (l : String) : Accounts marksOf high.IsValue
          (marksOf l + (marksOf c.name + marksAll high.texts))
          (.lift (renderLiteral high) >>= fun h => pure (c.name ++ ":" ++ l ++ " /to/ " ++ h)) :=
        ((accounts_renderLiteral high).map (htext l)).congr Iff.rfl (by omega)
      rw [Script.run, Logged.lift_bind]
      simp only [Logged.lift_bind]
      refine ((accounts_renderLiteral low).bind fun l _ => hrest l).congr ?_ ?_
      · rw [hrange]
        simp_all
      · simp only [Operand.texts, List.flatMap_cons, List.flatMap_nil, marksAll_append,
          marksAll_nil]
        omega

theorem accounts_like (operand : Operand) :
    Accounts marksOf operand.IsSample (marksOf c.name + marksAll operand.texts)
      ((Script.like c operand).run nested) := by
  -- a value that is quoted here
  have hquoted (value : Literal) : Accounts marksOf value.IsValue
      (marksOf c.name + marksAll value.texts)
      (.lift (renderLiteral value >>= fun text => .ok (c.name ++ ":\"" ++ text ++ "\""))) := by
    rw [Logged.lift_bind, Nat.add_comm]
    refine (accounts_renderLiteral value).map fun text => ?_
    rw [marksOf_append_plain rfl, marksOf_append, marksOf_append_plain rfl, Nat.add_comm]
  have hplain (operand : Operand) : Accounts marksOf operand.IsValue
      (marksOf c.name + marksAll operand.texts)
      ((Script.withOperand (c.name ++ ":") operand).run nested) := by
    refine (accounts_withOperand nested operand).congr Iff.rfl ?_
    rw [marksOf_append_plain rfl]
  match operand with
  | .literal (.pattern p) =>
    refine .done trivial ?_
    have hsource : marksOf (String.ofList (withoutQuotes p.source.toList)) = marksOf p.source := by
      rw [marksOf, String.toList_ofList, marks_withoutQuotes]
      rfl
    rw [marksOf_append_plain rfl, marksOf_append, marksOf_append_plain rfl, hsource]
    rfl
  | .literal (.phrase phrase) => exact hplain (.literal (.phrase phrase))
  | .column other => exact hplain (.column other)
  | .list values => exact accounts_refuse nested id
  | .literal (.string text) => exact hquoted (.string text)
  | .literal (.integer n) => exact hquoted (.integer n)
  | .literal (.float x) => exact hquoted (.float x)
  | .literal (.boolean b) => exact hquoted (.boolean b)
  | .literal .null => exact hquoted .null
  | .literal (.raw text) => exact hquoted (.raw text)
  | .literal (.table name) => exact hquoted (.table name)
  | .literal (.dateTime t) => exact hquoted (.dateTime t)

theorem accounts_isIn (operand : Operand) :
    Accounts marksOf operand.IsChoice (marksOf c.name + marksAll operand.texts)
      ((Script.isIn c operand).run nested) := by
  cases operand with
  | literal _ | column _ => exact accounts_refuse nested id
  | list values =>
    rw [Script.isIn]
    split_ifs with h
    · refine (accounts_withOperand nested (.list values)).congr ?_ ?_
      · rw [Operand.isChoice_list_iff]
        exact (and_iff_right h).symm
      · rw [marksOf_append_plain rfl]
    · exact accounts_refuse nested fun hchoice => h (Operand.isChoice_list_iff.mp hchoice).1

/-! ## Clauses -/

theorem renderComparison_token {dialect : Dialect} {token : String} {c : Comparison}
    (h : dialect.form c.operator = .ok (.token token)) :
    renderComparison dialect nested c =
      Logged.note (.table c.column.table) >>= fun _ =>
        renderOperand c.operand >>= fun value => pure (c.column.name ++ token ++ value) := by
  rw [renderComparison, h]
  rfl

theorem renderComparison_script {dialect : Dialect} {script : Column → Operand → Script}
    {c : Comparison} (h : dialect.form c.operator = .ok (.script script)) :
    renderComparison dialect nested c =
      Logged.note (.table c.column.table) >>= fun _ => (script c.column c.operand).run nested := by
  rw [renderComparison, h]
  rfl

theorem accounts_token {token : String} {c : Comparison}
    (h : Dialect.standard.form c.operator = .ok (.token token)) (htoken : marksOf token = 0) :
    Accounts marksOf c.operand.IsValue (marksOf c.column.name + marksAll c.operand.texts)
      (renderComparison .standard nested c) := by
  rw [renderComparison_token nested h, Nat.add_comm]
  refine ((accounts_renderOperand c.operand).map fun value => ?_).table
  rw [marksOf_append, marksOf_append_plain htoken, Nat.add_comm]

theorem accounts_renderComparison (c : Comparison) :
    Accounts marksOf (c.operand.Fits c.operator) (marksOf c.column.name + marksAll c.operand.texts)
      (renderComparison .standard nested c) := by
  obtain ⟨column, operator, operand⟩ := c
  cases operator with
  | eq | ne | gt | gte | lt | lte | «matches» | isNot => exact accounts_token nested rfl rfl
  | like =>
    rw [renderComparison_script nested rfl]
    exact (accounts_like column nested operand).table
  | between =>
    rw [renderComparison_script nested rfl]
    exact (accounts_between column nested operand).table
  | isIn =>
    rw [renderComparison_script nested rfl]
    exact (accounts_isIn column nested operand).table

theorem renderEach_eq (dialect : Dialect) : ∀ clauses : List Clause,
    renderEach dialect nested clauses = Logged.each (renderClause dialect nested) clauses
  | [] => rfl
  | clause :: rest => by
    rw [renderEach, Logged.each, renderEach_eq dialect rest]

theorem renderClause_group (dialect : Dialect) (combinator : Combinator) {children : List Clause}
    (h : children ≠ []) :
    renderClause dialect nested (.group combinator children) =
      Logged.each (renderClause dialect nested) children >>= fun texts =>
        pure ("(" ++ combinator.joiner.intercalate texts ++ ")") := by
  obtain ⟨first, rest, rfl⟩ := List.exists_cons_of_ne_nil h
  rw [renderClause, Logged.each, renderEach_eq]
  simp only [Logged.bind_assoc, Logged.pure_bind]

/-- The parentheses and joiners of a group have no marks. -/
theorem marksOf_group (combinator : Combinator) (texts : List String) :
    marksOf ("(" ++ combinator.joiner.intercalate texts ++ ")") = marksAll texts := by
  have hjoiner : marksOf combinator.joiner = 0 := by cases combinator <;> rfl
  rw [marksOf_append_plain rfl, marksOf_plain_append rfl, marksOf_intercalate hjoiner]

theorem texts_group (combinator : Combinator) (children : List Clause) :
    Clause.texts (.group combinator children) = children.flatMap Clause.texts := by
  rw [Clause.texts, Clause.nodes_group, List.flatMap_cons, List.flatMap_assoc]
  rfl

/-- A node without children has its own texts only. -/
theorem accounts_of_leaf {clause : Clause} (h : clause.nodes = [clause])
    (hclause : Accounts marksOf clause.IsSearchable (marksAll clause.ownTexts)
      (renderClause .standard nested clause)) :
    Accounts marksOf (∀ node ∈ clause.nodes, node.IsSearchable) (marksAll clause.texts)
      (renderClause .standard nested clause) := by
  rw [Clause.texts, h, List.flatMap_singleton]
  exact hclause.congr List.forall_mem_singleton.symm rfl

/-- Every node is rendered, and each accounts for the marks of its own texts. -/
theorem accounts_renderClause (clause : Clause) :
    Accounts marksOf (∀ node ∈ clause.nodes, node.IsSearchable) (marksAll clause.texts)
      (renderClause .standard nested clause) := by
  induction clause with
  | comparison c =>
    refine accounts_of_leaf nested rfl ((accounts_renderComparison nested c).congr Iff.rfl ?_)
    exact (marksAll_cons c.column.name c.operand.texts).symm
  | group combinator children ih =>
    by_cases hne : children = []
    · subst hne
      refine .fail (fun h => ?_) (by simp [Error.OfTables])
      exact h _ List.mem_cons_self rfl
    · have htext (texts : List String) :
          marksOf ("(" ++ combinator.joiner.intercalate texts ++ ")") = marksAll texts + 0 :=
        marksOf_group combinator texts
      rw [renderClause_group nested _ _ hne, texts_group]
      refine ((Accounts.each ih).map htext).congr ?_ rfl
      rw [Clause.nodes_group, List.forall_mem_cons, List.forall_mem_flatMap]
      exact (and_iff_right hne).symm
  | literal value => exact accounts_of_leaf nested rfl (accounts_renderStanding value)
  | column c => exact accounts_of_leaf nested rfl (accounts_renderColumn c)
  | compiled p => exact accounts_of_leaf nested rfl (.fail id (by simp [Error.OfTables]))

/-! ## Searches -/

/-- The marks in front of a query are those of the field that it is ordered by. -/
theorem marksOf_limitText (field : String) (direction : Direction) (limit offset : UInt64) :
    marksOf (limitText field direction limit offset) = marksOf field := by
  have hdirection : marksOf direction.text = 0 := by cases direction <;> rfl
  unfold limitText
  rw [marksOf_append_plain rfl, marksOf_append_plain (marksOf_naturalText _),
    marksOf_append_plain rfl, marksOf_append_plain (marksOf_naturalText _),
    marksOf_append_plain rfl, marksOf_append_plain hdirection, marksOf_append_plain rfl,
    marksOf_plain_append rfl]

theorem accounts_renderOrder (limit offset : UInt64) (order : Option Order) :
    Accounts marksOf True (marksAll (order.toList.flatMap Order.texts))
      (renderOrder limit offset order) := by
  match order with
  | none => exact .done trivial rfl
  | some (.column c direction) =>
    refine (Accounts.done trivial ?_).table
    exact marksOf_limitText c.name direction limit offset
  | some (.score direction) =>
    exact .done trivial (marksOf_limitText scoreField direction limit offset)

variable (columnSql : Column → String) (nesting : Nat) (clauses : List Clause)
  (order : Option Order) (limit offset : UInt64)

theorem accounts_renderAll :
    Accounts marksAll (∀ node ∈ Clause.nodesAll (Clause.undeclared clauses), node.IsSearchable)
      (marksAll ((Clause.undeclared clauses).flatMap Clause.texts))
      (Compiler.renderAll ⟨.standard, columnSql, nesting⟩ clauses) := by
  obtain ⟨nested, hnested⟩ := Compiler.render_eq_renderClause ⟨.standard, columnSql, nesting⟩
  have heach (body : List Clause) : Accounts marksAll
      (∀ node ∈ Clause.nodesAll body, node.IsSearchable) (marksAll (body.flatMap Clause.texts))
      (Logged.each (Compiler.render ⟨.standard, columnSql, nesting⟩) body) := by
    rw [hnested, Clause.nodesAll_eq, List.forall_mem_flatMap]
    exact Accounts.each fun clause _ => accounts_renderClause nested clause
  rcases Compiler.renderAll_undeclared ⟨.standard, columnSql, nesting⟩ clauses with h | ⟨name, h⟩
  · rw [h]
    exact heach _
  · rw [h]
    exact (heach _).table

theorem accounts_renderQuery :
    Accounts marksOf (∀ node ∈ Clause.nodesAll (Clause.undeclared clauses), node.IsSearchable)
      (marksAll ((Clause.undeclared clauses).flatMap Clause.texts ++
        order.toList.flatMap Order.texts))
      (Compiler.renderQuery ⟨.standard, columnSql, nesting⟩ clauses order limit offset) := by
  have hfront (texts : List String) : Accounts marksOf True
      (marksAll texts + marksAll (order.toList.flatMap Order.texts))
      (renderOrder limit offset order >>= fun front =>
        pure (front ++ " and ".intercalate texts)) := by
    rw [Nat.add_comm]
    refine (accounts_renderOrder limit offset order).map fun front => ?_
    rw [marksOf_append, marksOf_intercalate rfl]
  rw [marksAll_append]
  have hall := accounts_renderAll columnSql nesting clauses
  exact (hall.bind fun texts _ => hfront texts).congr (iff_of_eq (and_true _)) rfl

theorem Draft.ofTables_of_table {d : Draft} {e : Error} (h : d.table = .error e) : e.OfTables := by
  unfold Draft.table at h
  split at h
  · cases h
    exact .inl rfl
  · cases h
  · cases h
    exact .inr ⟨_, rfl⟩

theorem Draft.template_eq_error {d : Draft} (h : marks d.text.toList ≠ d.columns.length) :
    d.template = .error (.invalidParameter .strayMark) :=
  if_pos h

/-- What can be searched has no errors but those of the tables. -/
theorem ok_or_ofTables_iff {r : Except Error Predicate} :
    ((∃ p, r = .ok p) ∨ r = .error .noFilterTable ∨
      ∃ tables, r = .error (.ambiguousTable tables)) ↔ ∀ e, r = .error e → e.OfTables := by
  cases r with
  | ok p => simp
  | error e => simp [Error.OfTables]

variable {columnSql nesting clauses order limit offset} in
/-- What compiles is searchable. -/
theorem Compiler.searchable_of_compile {p : Predicate}
    (h : Compiler.compile ⟨.standard, columnSql, nesting⟩ clauses order limit offset = .ok p) :
    Searchable clauses order := by
  obtain ⟨d, hdraft, htemplate, -⟩ := compile_eq_ok.mp h
  have hquery := accounts_renderQuery columnSql nesting clauses order limit offset
  rw [draft] at hdraft
  generalize Compiler.renderQuery ⟨.standard, columnSql, nesting⟩ clauses order limit offset =
    rendered at hquery hdraft
  cases hquery with
  | error => cases hdraft
  | @ok log text hvalid hcount =>
    refine ⟨hvalid, marksAll_eq_zero_iff.mp ?_⟩
    by_contra hown
    -- a mark in a text is one that no column is noted for
    have hstray : marks d.text.toList ≠ d.columns.length := by
      cases hdraft
      exact fun heq => hown (Nat.add_eq_left.mp (hcount.symm.trans heq))
    cases htemplate.symm.trans (Draft.template_eq_error hstray)

/-- A compilation for the search engine's syntax gets as far as the tables exactly if what it is
given is searchable: it succeeds, or only lacks a single table. -/
theorem Compiler.compile_searchable_iff :
    ((∃ p, Compiler.compile ⟨.standard, columnSql, nesting⟩ clauses order limit offset = .ok p) ∨
      Compiler.compile ⟨.standard, columnSql, nesting⟩ clauses order limit offset =
        .error .noFilterTable ∨
      ∃ tables, Compiler.compile ⟨.standard, columnSql, nesting⟩ clauses order limit offset =
        .error (.ambiguousTable tables)) ↔
    Searchable clauses order := by
  have hquery := accounts_renderQuery columnSql nesting clauses order limit offset
  rw [ok_or_ofTables_iff]
  generalize hr : Compiler.renderQuery ⟨.standard, columnSql, nesting⟩ clauses order limit offset =
    rendered at hquery
  cases hquery with
  | @error log e hvalid herror =>
    have hdraft : Compiler.draft ⟨.standard, columnSql, nesting⟩ clauses order limit offset =
        .error e := by
      rw [draft, hr]
    exact ⟨fun h => absurd (h e (compile_eq_error.mpr (.inl hdraft))) herror,
      fun h => absurd h.nodes hvalid⟩
  | @ok log text hvalid hcount =>
    -- the draft has a column for each placeholder that was noted
    obtain ⟨d, hdraft, hmarks⟩ : ∃ d,
        Compiler.draft ⟨.standard, columnSql, nesting⟩ clauses order limit offset = .ok d ∧
          marks d.text.toList = d.columns.length +
            marksAll ((Clause.undeclared clauses).flatMap Clause.texts ++
              order.toList.flatMap Order.texts) :=
      ⟨⟨text, log.filterMap Note.column?, log.filterMap Note.table?⟩, by rw [draft, hr], hcount⟩
    constructor
    · intro h
      refine ⟨hvalid, marksAll_eq_zero_iff.mp ?_⟩
      by_contra hown
      -- more marks than columns are an error, and not one of the tables
      have htemplate := Draft.template_eq_error
        fun heq => hown (Nat.add_eq_left.mp (hmarks.symm.trans heq))
      have htables := h _ (compile_eq_error.mpr (.inr ⟨d, hdraft, .inl htemplate⟩))
      simp [Error.OfTables] at htables
    · intro h e he
      rw [marksAll_eq_zero_iff.mpr h.texts, Nat.add_zero] at hmarks
      rcases compile_eq_error.mp he with herror | ⟨d', hd, htemplate | ⟨-, htable⟩⟩
      · rw [hdraft] at herror
        cases herror
      · obtain rfl := Except.ok.inj (hdraft.symm.trans hd)
        rw [Draft.template_of_marks hmarks] at htemplate
        cases htemplate
      · exact Draft.ofTables_of_table htable

end HybridQuery
