import HybridQuery.Proofs.Searchable

/-!
# Ledgers of marks

In a rendered text each placeholder has a mark, but a mark may come from somewhere else, and scripts
may add and drop marks. A `Ledger` has both sides of this: the marks that come with texts or that
scripts add, and those that scripts drop. Every step of rendering balances (`Ledger.Balances`),
whatever the dialect, and so does the text of a search (`balances_renderQuery`).

A property that ledgers of texts have, and those of scripts, is one of the ledger of every search
that renders (`Compiler.upheld_ledger`). The name of each column that is compared is mentioned in
this ledger (`Compiler.mentions_name`).
-/

namespace HybridQuery

/-- What is to be said about the marks of a rendered text besides its placeholders. -/
structure Ledger where
  /-- The names, tokens and values that were written without a script, and the values that scripts
  were handed. -/
  texts : List String := []
  /-- The names of the columns that scripts were run for. -/
  names : List String := []
  /-- The marks that scripts wrote on top of those they were handed. -/
  added : Nat := 0
  /-- The marks that scripts were handed and did not write, and the placeholders that they never
  got to see. -/
  dropped : Nat := 0

namespace Ledger

/-- The marks that stand for no column. -/
def foreign (l : Ledger) : Nat :=
  marksAll l.texts + l.added

instance : Add Ledger :=
  ⟨fun l m =>
    ⟨l.texts ++ m.texts, l.names ++ m.names, l.added + m.added, l.dropped + m.dropped⟩⟩

@[simp] theorem texts_add (l m : Ledger) : (l + m).texts = l.texts ++ m.texts := rfl

@[simp] theorem names_add (l m : Ledger) : (l + m).names = l.names ++ m.names := rfl

@[simp] theorem added_add (l m : Ledger) : (l + m).added = l.added + m.added := rfl

@[simp] theorem dropped_add (l m : Ledger) : (l + m).dropped = l.dropped + m.dropped := rfl

@[simp] theorem foreign_add (l m : Ledger) : (l + m).foreign = l.foreign + m.foreign := by
  simp only [foreign, texts_add, marksAll_append, added_add]
  omega

@[simp] theorem foreign_texts (texts : List String) :
    foreign { texts := texts } = marksAll texts := rfl

@[simp] theorem foreign_names (names : List String) : foreign { names := names } = 0 := rfl

@[simp] theorem foreign_dropped (n : Nat) : foreign { dropped := n } = 0 := rfl

theorem foreign_eq_zero_iff {l : Ledger} :
    l.foreign = 0 ↔ (∀ text ∈ l.texts, mark ∉ text.toList) ∧ l.added = 0 := by
  rw [foreign, Nat.add_eq_zero_iff, marksAll_eq_zero_iff]

/-- The ledgers of texts one after another. -/
def all : List Ledger → Ledger
  | [] => {}
  | l :: rest => l + all rest

/-- The ledger of a text that a script asks for. If there is none, its placeholders are lost. -/
def handed (x : Rendered) (l : Ledger) : Ledger :=
  match x.outcome with
  | .ok _ => l
  | .error _ => { dropped := placeholders x.log }

end Ledger

/-- The marks that a script is handed. -/
def marksHanded : Except Error String → Nat
  | .ok text => marksOf text
  | .error _ => 0

/-- The ledger of a script that has been handed some marks already. -/
def Script.ledger (nested : Clause → Rendered) (entry : Clause → Ledger) (received : Nat) :
    Script → Ledger
  | .done (.ok text) =>
    { added := marksOf text - received, dropped := received - marksOf text }
  | .done (.error _) => {}
  | .operand value next =>
    let result := renderOperand value
    Ledger.handed result { texts := value.texts } +
      (next result.outcome).ledger nested entry (received + marksHanded result.outcome)
  | .clause c next =>
    let result := nested c
    Ledger.handed result (entry c) +
      (next result.outcome).ledger nested entry (received + marksHanded result.outcome)

/-- The ledger of a comparison in the form of the dialect. -/
def Comparison.ledger (dialect : Dialect) (nested : Clause → Rendered) (entry : Clause → Ledger)
    (c : Comparison) : Ledger :=
  match dialect.form c.operator with
  | .ok (.token token) => { texts := c.column.name :: token :: c.operand.texts }
  | .ok (.script script) =>
    { names := [c.column.name] } + (script c.column c.operand).ledger nested entry 0
  | .error _ => {}

mutual

/-- The ledger of a clause, with `entry` for the clauses that scripts ask for. -/
def Clause.ledger (dialect : Dialect) (nested : Clause → Rendered) (entry : Clause → Ledger) :
    Clause → Ledger
  | .comparison c => c.ledger dialect nested entry
  | .group _ children => Clause.ledgerAll dialect nested entry children
  | .literal value => { texts := value.texts }
  | .column _ => {}
  | .compiled _ => {}

def Clause.ledgerAll (dialect : Dialect) (nested : Clause → Rendered) (entry : Clause → Ledger) :
    List Clause → Ledger
  | [] => {}
  | clause :: rest =>
    Clause.ledger dialect nested entry clause + Clause.ledgerAll dialect nested entry rest

end

/-- The ledger of a clause in which scripts may nest to the depth `n`. -/
def ledgerWithin (dialect : Dialect) : Nat → Clause → Ledger
  | 0 => Clause.ledger dialect (fun _ => .fail (.unsupportedClause .nestedTooDeep)) fun _ => {}
  | n + 1 => Clause.ledger dialect (renderWithin dialect n) (ledgerWithin dialect n)

/-- The ledger of a whole compilation. -/
def Compiler.ledger (compiler : Compiler) (clauses : List Clause) (order : Option Order) :
    Ledger :=
  Ledger.all ((Clause.undeclared clauses).map (ledgerWithin compiler.dialect compiler.nesting)) +
    { texts := order.toList.flatMap Order.texts }

namespace Ledger

theorem handed_of_ok {x : Rendered} {text : String} (h : x.outcome = .ok text) (l : Ledger) :
    handed x l = l := by
  rw [handed, h]

theorem handed_of_error {x : Rendered} {e : Error} (h : x.outcome = .error e) (l : Ledger) :
    handed x l = { dropped := placeholders x.log } := by
  rw [handed, h]

/-- A property that texts without a script have, and that ledgers together have if each of them
does. -/
structure IsAdditive (P : Ledger → Prop) : Prop where
  texts : ∀ texts, P { texts }
  add : ∀ {l m}, P l → P m → P (l + m)

theorem IsAdditive.all {P : Ledger → Prop} (hP : IsAdditive P) :
    ∀ {ledgers : List Ledger}, (∀ l ∈ ledgers, P l) → P (all ledgers)
  | [], _ => hP.texts []
  | l :: rest, h => by
    obtain ⟨hl, hrest⟩ := List.forall_mem_cons.mp h
    exact hP.add hl (IsAdditive.all hP hrest)

/-- The text was written, or known to a script. -/
def Mentions (l : Ledger) (text : String) : Prop :=
  text ∈ l.texts ∨ text ∈ l.names

theorem mentions_add {l m : Ledger} {text : String} :
    (l + m).Mentions text ↔ l.Mentions text ∨ m.Mentions text := by
  simp only [Mentions, texts_add, names_add, List.mem_append]
  tauto

theorem mentions_all_of_mem {l : Ledger} {text : String} (h : l.Mentions text) :
    ∀ {ledgers : List Ledger}, l ∈ ledgers → (all ledgers).Mentions text
  | other :: rest, hmem => by
    rw [all, mentions_add]
    rcases List.mem_cons.mp hmem with rfl | hrest
    · exact .inl h
    · exact .inr (mentions_all_of_mem h hrest)

end Ledger

theorem ledgerAll_eq (dialect : Dialect) (nested : Clause → Rendered) (entry : Clause → Ledger) :
    ∀ clauses : List Clause, Clause.ledgerAll dialect nested entry clauses =
      Ledger.all (clauses.map (Clause.ledger dialect nested entry))
  | [] => rfl
  | clause :: rest => by
    rw [Clause.ledgerAll, ledgerAll_eq dialect nested entry rest, List.map_cons, Ledger.all]

/-! ## Balance -/

/-- If the computation succeeds, the marks of its result are those it started with, its
placeholders, and the foreign ones, less what was dropped. -/
def Ledger.Balances {α : Type} (start : Nat) (count : α → Nat) (l : Ledger) (x : Logged Note α) :
    Prop :=
  ∀ a, x.outcome = .ok a → count a + l.dropped = start + placeholders x.log + l.foreign

namespace Ledger.Balances

variable {α β γ : Type} {count : α → Nat} {count' : β → Nat} {start : Nat} {l m : Ledger}

/-- What accounts for its marks has a balanced ledger with nothing dropped. -/
theorem of_accounts {valid : Prop} {texts : List String} {x : Logged Note α}
    (h : Accounts count valid (marksAll texts) x) :
    Balances 0 count { texts } x := by
  intro a ha
  cases h with
  | error hvalid herror => cases ha
  | ok hvalid hcount =>
    cases ha
    simpa using hcount

theorem fail (e : Error) : Balances start count l (Logged.fail e : Logged Note α) := by
  intro a ha
  cases ha

/-- One step after another. -/
protected theorem bind {x : Logged Note α} {f : α → Logged Note β}
    (hx : Balances start count l x) (hf : ∀ a, Balances (count a) count' m (f a)) :
    Balances start count' (l + m) (x >>= f) := by
  intro b hb
  obtain ⟨a, ha, hb⟩ := Logged.bind_eq_ok.mp hb
  have hfirst := hx a ha
  have hsecond := hf a b hb
  rw [Logged.log_bind ha, placeholders_append, dropped_add, foreign_add]
  omega

/-- A result that is put into a text, with `more` marks around it. -/
protected theorem map {x : Logged Note α} {f : α → β} {start' more : Nat}
    (hx : Balances start count l x) (hf : ∀ a, count' (f a) = count a + more)
    (hdropped : m.dropped = l.dropped)
    (hforeign : start' + m.foreign = start + l.foreign + more) :
    Balances start' count' m (x >>= fun a => pure (f a)) := by
  intro b hb
  obtain ⟨a, ha, hb⟩ := Logged.bind_eq_ok.mp hb
  cases hb
  have hresult := hx a ha
  rw [Logged.log_bind ha, Logged.log_pure, List.append_nil, hf, hdropped]
  omega

/-- Neither do names make a difference. -/
protected theorem names {x : Logged Note α} {names : List String} (hx : Balances start count l x) :
    Balances start count ({ names } + l) x := by
  intro a ha
  simpa using hx a ha

/-- A note of a table makes no difference. -/
protected theorem table {name : String} {f : Unit → Logged Note α}
    (hf : Balances start count l (f ())) :
    Balances start count l (Logged.note (.table name) >>= f) := by
  intro a ha
  exact hf a ha

/-- A step of a script, whose next one is told what became of it. -/
protected theorem andThen {x : Rendered} {f : Except Error String → Rendered}
    (hx : Balances 0 marksOf l x)
    (hf : Balances (start + marksHanded x.outcome) marksOf m (f x.outcome)) :
    Balances start marksOf (Ledger.handed x l + m) (x.andThen f) := by
  intro text htext
  have hnext := hf text htext
  have hlog : (x.andThen f).log = x.log ++ (f x.outcome).log := rfl
  rw [hlog, placeholders_append, dropped_add, foreign_add]
  cases hresult : x.outcome with
  | ok handed =>
    have hhanded := hx handed hresult
    simp only [hresult, marksHanded] at hnext
    rw [handed_of_ok hresult]
    omega
  | error e =>
    -- whatever was noted on the way to the error is dropped
    simp only [hresult, marksHanded] at hnext
    simp only [handed_of_error hresult, foreign_dropped]
    omega

end Ledger.Balances

section Balance

variable {nested : Clause → Rendered} {entry : Clause → Ledger}

theorem balances_renderOperand (operand : Operand) :
    Ledger.Balances 0 marksOf { texts := operand.texts } (renderOperand operand) :=
  .of_accounts (accounts_renderOperand operand)

/-- What a script does with the texts it is handed is in its ledger. -/
theorem Script.balances_run (hentry : ∀ c, (entry c).Balances 0 marksOf (nested c))
    (script : Script) : ∀ received,
      (script.ledger nested entry received).Balances received marksOf (script.run nested) := by
  induction script with
  | done result =>
    intro received text htext
    rw [run, Logged.outcome_lift] at htext
    subst htext
    have hlog : placeholders (Logged.lift (.ok text) : Rendered).log = 0 := rfl
    rw [run, hlog]
    simp only [ledger, Ledger.foreign, marksAll_nil]
    omega
  | operand value next ih =>
    intro received
    exact (balances_renderOperand value).andThen (ih _ _)
  | clause c next ih =>
    intro received
    exact (hentry c).andThen (ih _ _)

variable (dialect : Dialect)

theorem balances_renderComparison (hentry : ∀ c, (entry c).Balances 0 marksOf (nested c))
    (c : Comparison) :
    (c.ledger dialect nested entry).Balances 0 marksOf (renderComparison dialect nested c) := by
  unfold Comparison.ledger
  split
  · next token h =>
    have htext (value : String) : marksOf (c.column.name ++ token ++ value) =
        marksOf value + (marksOf c.column.name + marksOf token) := by
      rw [marksOf_append, marksOf_append, Nat.add_comm]
    rw [renderComparison_token nested h]
    refine Ledger.Balances.table ((balances_renderOperand c.operand).map htext rfl ?_)
    simp only [Ledger.foreign_texts, marksAll_cons]
    omega
  · next script h =>
    rw [renderComparison_script nested h]
    exact (Script.balances_run hentry (script c.column c.operand) 0).table.names
  · next e h =>
    intro text htext
    simp only [renderComparison, h] at htext
    cases htext

theorem balances_each {f : Clause → Rendered} {entry : Clause → Ledger} :
    ∀ {clauses : List Clause}, (∀ c ∈ clauses, (entry c).Balances 0 marksOf (f c)) →
      (Ledger.all (clauses.map entry)).Balances 0 marksAll (Logged.each f clauses)
  | [], _ => by
    intro texts h
    cases h
    rfl
  | c :: rest, h => by
    obtain ⟨hc, hrest⟩ := List.forall_mem_cons.mp h
    refine hc.bind fun text texts htexts => ?_
    obtain ⟨others, hothers, htexts⟩ := Logged.bind_eq_ok.mp htexts
    cases htexts
    have hbalance := balances_each hrest others hothers
    rw [Logged.log_bind hothers, Logged.log_pure, List.append_nil, marksAll_cons]
    omega

theorem balances_renderClause (hentry : ∀ c, (entry c).Balances 0 marksOf (nested c))
    (clause : Clause) :
    (clause.ledger dialect nested entry).Balances 0 marksOf
      (renderClause dialect nested clause) := by
  induction clause with
  | comparison c => exact balances_renderComparison dialect hentry c
  | group combinator children ih =>
    by_cases hne : children = []
    · subst hne
      exact .fail _
    · have htext (texts : List String) :
          marksOf ("(" ++ combinator.joiner.intercalate texts ++ ")") = marksAll texts + 0 :=
        marksOf_group combinator texts
      rw [renderClause_group nested _ _ hne, Clause.ledger, ledgerAll_eq]
      exact (balances_each ih).map htext rfl rfl
  | literal value => exact .of_accounts (accounts_renderStanding value)
  | column c => exact .of_accounts (accounts_renderColumn c)
  | compiled p => exact .fail _

theorem balances_renderWithin : ∀ (n : Nat) (clause : Clause),
    (ledgerWithin dialect n clause).Balances 0 marksOf (renderWithin dialect n clause)
  | 0, clause => balances_renderClause dialect (fun _ => .fail _) clause
  | n + 1, clause => balances_renderClause dialect (balances_renderWithin n) clause

end Balance

variable (compiler : Compiler) (clauses : List Clause) (order : Option Order)
  (limit offset : UInt64)

theorem balances_renderAll :
    (Ledger.all ((Clause.undeclared clauses).map
      (ledgerWithin compiler.dialect compiler.nesting))).Balances 0 marksAll
        (compiler.renderAll clauses) := by
  have heach (body : List Clause) :
      (Ledger.all (body.map (ledgerWithin compiler.dialect compiler.nesting))).Balances 0 marksAll
        (Logged.each compiler.render body) :=
    balances_each fun c _ => balances_renderWithin compiler.dialect compiler.nesting c
  rcases compiler.renderAll_undeclared clauses with h | ⟨name, h⟩
  · rw [h]
    exact heach _
  · rw [h]
    exact (heach _).table

theorem balances_renderQuery : (compiler.ledger clauses order).Balances 0 marksOf
    (compiler.renderQuery clauses order limit offset) := by
  have horder : Ledger.Balances 0 marksOf { texts := order.toList.flatMap Order.texts }
      (renderOrder limit offset order) :=
    .of_accounts (accounts_renderOrder limit offset order)
  refine (balances_renderAll compiler clauses).bind fun texts => ?_
  have hfront (front : String) :
      marksOf (front ++ " and ".intercalate texts) = marksOf front + marksAll texts := by
    rw [marksOf_append, marksOf_intercalate rfl]
  exact horder.map hfront rfl (by omega)

/-! ## Clauses that render -/

section Rendering

variable {nested : Clause → Rendered} {entry : Clause → Ledger} {dialect : Dialect}
  {P : Ledger → Prop}

/-- The ledgers of the dialect's scripts have the property if those of the clauses have it that they
ask for. -/
def Dialect.Upholds (dialect : Dialect) (P : Ledger → Prop) : Prop :=
  ∀ operator script, dialect.form? operator = some (.script script) →
    ∀ nested entry, (∀ c text, (nested c).outcome = .ok text → P (entry c)) →
      ∀ c operand text, ((script c operand).run nested).outcome = .ok text →
        P ({ names := [c.name] } + (script c operand).ledger nested entry 0)

theorem Dialect.form?_of_form {operator : Operator} {form : Form}
    (h : dialect.form operator = .ok form) : dialect.form? operator = some form := by
  unfold Dialect.form at h
  split at h
  · next other hother =>
    rw [hother, Except.ok.inj h]
  · cases h

/-- The children of a group that renders do so as well. -/
theorem renders_of_renderClause_group {combinator : Combinator} {children : List Clause}
    {text : String}
    (h : (renderClause dialect nested (.group combinator children)).outcome = .ok text) :
    ∀ child ∈ children, ∃ text, (renderClause dialect nested child).outcome = .ok text := by
  intro child hchild
  rw [renderClause_group nested _ _ (List.ne_nil_of_mem hchild)] at h
  obtain ⟨texts, htexts, -⟩ := Logged.bind_eq_ok.mp h
  exact Logged.isOk_of_each htexts child hchild

theorem upheld_comparison (hP : Ledger.IsAdditive P) (hscripts : dialect.Upholds P)
    (hentry : ∀ c text, (nested c).outcome = .ok text → P (entry c)) (c : Comparison)
    {text : String} (htext : (renderComparison dialect nested c).outcome = .ok text) :
    P (c.ledger dialect nested entry) := by
  unfold Comparison.ledger
  split
  · exact hP.texts _
  · next script h =>
    rw [renderComparison_script nested h, Logged.outcome_note_bind] at htext
    exact hscripts _ _ (Dialect.form?_of_form h) nested entry hentry _ _ text htext
  · exact hP.texts []

theorem upheld_clause (hP : Ledger.IsAdditive P) (hscripts : dialect.Upholds P)
    (hentry : ∀ c text, (nested c).outcome = .ok text → P (entry c)) (clause : Clause) :
    ∀ text, (renderClause dialect nested clause).outcome = .ok text →
      P (clause.ledger dialect nested entry) := by
  induction clause with
  | comparison c => exact fun text htext => upheld_comparison hP hscripts hentry c htext
  | group combinator children ih =>
    intro text htext
    rw [Clause.ledger, ledgerAll_eq]
    refine hP.all (List.forall_mem_map.mpr fun child hchild => ?_)
    obtain ⟨childText, hchildText⟩ := renders_of_renderClause_group htext child hchild
    exact ih child hchild childText hchildText
  | literal _ | column _ | compiled _ => exact fun _ _ => hP.texts _

theorem upheld_within (hP : Ledger.IsAdditive P) (hscripts : dialect.Upholds P) :
    ∀ (n : Nat) (clause : Clause) (text : String),
      (renderWithin dialect n clause).outcome = .ok text → P (ledgerWithin dialect n clause)
  | 0, clause, text, htext =>
    upheld_clause hP hscripts (fun _ _ h => by cases h) clause text htext
  | n + 1, clause, text, htext =>
    upheld_clause hP hscripts (upheld_within hP hscripts n) clause text htext

/-- The name of each column that is compared is in the ledger. -/
theorem mentions_name_of_render (clause : Clause) :
    ∀ text, (renderClause dialect nested clause).outcome = .ok text →
      ∀ c ∈ clause.comparisons, (clause.ledger dialect nested entry).Mentions c.column.name := by
  induction clause with
  | comparison c =>
    intro text htext c' hc'
    obtain rfl : c' = c := by simpa using hc'
    rw [Clause.ledger, Comparison.ledger]
    split
    · exact .inl List.mem_cons_self
    · exact .inr List.mem_cons_self
    · next e h =>
      simp only [renderClause, renderComparison, h] at htext
      cases htext
  | group combinator children ih =>
    intro text htext c hc
    rw [Clause.comparisons_group, List.mem_flatMap] at hc
    obtain ⟨child, hchild, hc⟩ := hc
    obtain ⟨childText, hchildText⟩ := renders_of_renderClause_group htext child hchild
    rw [Clause.ledger, ledgerAll_eq]
    exact Ledger.mentions_all_of_mem (ih child hchild childText hchildText c hc)
      (List.mem_map_of_mem hchild)
  | literal _ | column _ | compiled _ =>
    intro _ _ c hc
    cases hc

theorem mentions_name_of_renderWithin : ∀ (n : Nat) (clause : Clause) (text : String),
    (renderWithin dialect n clause).outcome = .ok text →
      ∀ c ∈ clause.comparisons, (ledgerWithin dialect n clause).Mentions c.column.name
  | 0, clause, text, htext => mentions_name_of_render clause text htext
  | _ + 1, clause, text, htext => mentions_name_of_render clause text htext

end Rendering

namespace Compiler

variable {text : String}

theorem renders_of_renderQuery
    (h : (compiler.renderQuery clauses order limit offset).outcome = .ok text) :
    ∀ c ∈ Clause.undeclared clauses, ∃ text, (compiler.render c).outcome = .ok text := by
  obtain ⟨texts, htexts, -⟩ := Logged.bind_eq_ok.mp h
  have heach : (Logged.each compiler.render (Clause.undeclared clauses)).outcome = .ok texts := by
    rcases compiler.renderAll_undeclared clauses with hall | ⟨name, hall⟩
    · rwa [hall] at htexts
    · rwa [hall, Logged.outcome_note_bind] at htexts
  exact Logged.isOk_of_each heach

theorem upheld_ledger {P : Ledger → Prop} (hP : Ledger.IsAdditive P)
    (hscripts : compiler.dialect.Upholds P)
    (h : (compiler.renderQuery clauses order limit offset).outcome = .ok text) :
    P (compiler.ledger clauses order) := by
  refine hP.add (hP.all (List.forall_mem_map.mpr fun c hc => ?_)) (hP.texts _)
  obtain ⟨text, htext⟩ := renders_of_renderQuery compiler clauses order limit offset h c hc
  exact upheld_within hP hscripts compiler.nesting c text htext

theorem mentions_name (h : (compiler.renderQuery clauses order limit offset).outcome = .ok text)
    {c : Comparison} (hc : c ∈ Clause.comparisonsAll clauses) :
    (compiler.ledger clauses order).Mentions c.column.name := by
  rw [← Clause.comparisonsAll_undeclared, Clause.comparisonsAll_eq, List.mem_flatMap] at hc
  obtain ⟨clause, hclause, hc⟩ := hc
  obtain ⟨text, htext⟩ :=
    renders_of_renderQuery compiler clauses order limit offset h clause hclause
  have hmentions := mentions_name_of_renderWithin compiler.nesting clause text htext c hc
  exact Ledger.mentions_add.mpr
    (.inl (Ledger.mentions_all_of_mem hmentions (List.mem_map_of_mem hclause)))

end Compiler

end HybridQuery
