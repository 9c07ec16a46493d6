import HybridQuery.Proofs.Ledger

/-!
# Marks that stand for no column

Marks are counted against columns, so a stray mark is found only as long as every placeholder
keeps its own. A script may drop what it is handed. Then the column is still there, and a mark from
anywhere else takes its place unnoticed.

So a compilation is refused for its marks exactly if the two sides of its ledger differ
(`Compiler.compile_eq_strayMark_iff`). A dialect whose scripts write no fewer marks than the texts
they are handed (`Dialect.Keeps`) has nothing to set against a mark in such a text or in one that is
written without a script. The name of its column is known to a script as well, but only a dialect
that `KeepsNames` makes up for the marks in it. What a dialect has nothing to set against is always
refused (`Compiler.foreign_marks_refused`). The search engine's own syntax is a dialect of both
kinds (`Dialect.keepsNames_standard`).
-/

namespace HybridQuery

/-! ## Scripts that keep what they are handed -/

/-- The script ends in an error, whatever it is handed. -/
def Script.Fails : Script → Prop
  | .done result => ∃ e, result = .error e
  | .operand _ next => ∀ result, (next result).Fails
  | .clause _ next => ∀ result, (next result).Fails

/-- The text of the script has as many marks as it was handed, of which there are `received`
already. It may do without a value, but not without a clause that it asked for. -/
def Script.Keeps (received : Nat) : Script → Prop
  | .done result => ∀ text, result = .ok text → received ≤ marksOf text
  | .operand _ next => ∀ result, (next result).Keeps (received + marksHanded result)
  | .clause _ next => (∀ text, (next (.ok text)).Keeps (received + marksOf text)) ∧
      ∀ e, (next (.error e)).Fails

/-- No script of the dialect writes fewer marks than it is handed. -/
def Dialect.Keeps (dialect : Dialect) : Prop :=
  ∀ operator script, dialect.form? operator = some (.script script) →
    ∀ c operand, (script c operand).Keeps 0

/-- No script of the dialect writes fewer marks than it is handed and the name of its column has. -/
def Dialect.KeepsNames (dialect : Dialect) : Prop :=
  ∀ operator script, dialect.form? operator = some (.script script) →
    ∀ c operand, (script c operand).Keeps (marksOf c.name)

theorem Script.Keeps.mono {script : Script} : ∀ {m n : Nat}, m ≤ n → script.Keeps n →
    script.Keeps m := by
  induction script with
  | done result => exact fun hle h text htext => hle.trans (h text htext)
  | operand value next ih =>
    exact fun hle h result => ih result (Nat.add_le_add_right hle _) (h result)
  | clause c next ih =>
    exact fun hle h =>
      ⟨fun text => ih (.ok text) (Nat.add_le_add_right hle _) (h.1 text), h.2⟩

theorem Dialect.KeepsNames.keeps {dialect : Dialect} (h : dialect.KeepsNames) : dialect.Keeps :=
  fun operator script hform c operand => (h operator script hform c operand).mono (Nat.zero_le _)

section Keeping

variable {nested : Clause → Rendered} {entry : Clause → Ledger} {dialect : Dialect}

theorem Script.not_ok_of_fails {script : Script} (h : script.Fails) (text : String) :
    (script.run nested).outcome ≠ .ok text := by
  induction script with
  | done result =>
    obtain ⟨e, rfl⟩ := h
    intro htext
    cases htext
  | operand value next ih => exact ih _ (h _)
  | clause c next ih => exact ih _ (h _)

/-- With a value nothing is dropped, and no name is told. -/
theorem handed_renderOperand (operand : Operand) :
    ∃ texts, Ledger.handed (renderOperand operand) { texts := operand.texts } = { texts } := by
  have hlift (result : Except Error String) (written : List String) :
      ∃ texts, Ledger.handed (.lift result) { texts := written } = { texts } := by
    cases result with
    | ok text => exact ⟨written, rfl⟩
    | error e => exact ⟨[], rfl⟩
  cases operand with
  | literal value => exact hlift _ _
  | column c => exact ⟨_, rfl⟩
  | list values => exact hlift _ _

/-- A script that keeps `more` marks than it was handed has a ledger with the property `Q`, if its
end has it, and if it stays when ledgers with the property `P` are put in front: those of the values
and clauses that the script asks for. -/
theorem Script.upheld_ledger {P Q : Ledger → Prop} (more : Nat) (hP : ∀ texts, P { texts })
    (hadd : ∀ {l m}, P l → Q m → Q (l + m))
    (hdone : ∀ received text, received + more ≤ marksOf text →
      Q { added := marksOf text - received, dropped := received - marksOf text })
    (hentry : ∀ c text, (nested c).outcome = .ok text → P (entry c)) (script : Script) :
    ∀ received, script.Keeps (received + more) → ∀ text, (script.run nested).outcome = .ok text →
      Q (script.ledger nested entry received) := by
  induction script with
  | done result =>
    intro received hkeeps text htext
    obtain rfl : result = .ok text := htext
    exact hdone received text (hkeeps text rfl)
  | operand value next ih =>
    intro received hkeeps text htext
    obtain ⟨texts, hhanded⟩ := handed_renderOperand value
    have hnext := hkeeps (renderOperand value).outcome
    rw [Nat.add_right_comm] at hnext
    rw [ledger, hhanded]
    exact hadd (hP texts) (ih _ _ hnext text htext)
  | clause c next ih =>
    intro received hkeeps text htext
    have htext' : ((next (nested c).outcome).run nested).outcome = .ok text := htext
    cases hresult : (nested c).outcome with
    | ok handed =>
      have hnext := hkeeps.1 handed
      rw [Nat.add_right_comm] at hnext
      rw [hresult] at htext'
      rw [ledger, Ledger.handed_of_ok hresult, hresult]
      exact hadd (hentry c handed hresult) (ih _ _ hnext text htext')
    | error e =>
      rw [hresult] at htext'
      exact absurd htext' (not_ok_of_fails (hkeeps.2 e) text)

theorem Ledger.isAdditive_dropped : IsAdditive fun l => l.dropped = 0 where
  texts _ := rfl
  add hl hm := by rw [dropped_add, hl, hm]

theorem Ledger.isAdditive_names : IsAdditive fun l => marksAll l.names ≤ l.added where
  texts _ := Nat.le_refl 0
  add hl hm := by
    rw [names_add, marksAll_append, added_add]
    exact Nat.add_le_add hl hm

theorem Dialect.Keeps.upholds (h : dialect.Keeps) : dialect.Upholds fun l => l.dropped = 0 := by
  intro operator script hform nested entry hentry c operand text htext
  have hdropped : ((script c operand).ledger nested entry 0).dropped = 0 := by
    refine Script.upheld_ledger (P := fun l => l.dropped = 0) (Q := fun l => l.dropped = 0) 0
      Ledger.isAdditive_dropped.texts Ledger.isAdditive_dropped.add ?_ hentry _ 0
      (h operator script hform c operand) text htext
    exact fun received text hle => Nat.sub_eq_zero_of_le hle
  simpa using hdropped

/-- The name of its column is made up for by what the script writes on top of what it is handed. -/
theorem Dialect.KeepsNames.upholds (h : dialect.KeepsNames) :
    dialect.Upholds fun l => marksAll l.names ≤ l.added := by
  intro operator script hform nested entry hentry c operand text htext
  have hkeeps := h operator script hform c operand
  rw [← Nat.zero_add (marksOf c.name)] at hkeeps
  have hadded : marksOf c.name + marksAll ((script c operand).ledger nested entry 0).names ≤
      ((script c operand).ledger nested entry 0).added := by
    refine Script.upheld_ledger (P := fun l => marksAll l.names ≤ l.added)
      (Q := fun l => marksOf c.name + marksAll l.names ≤ l.added) (marksOf c.name)
      Ledger.isAdditive_names.texts ?_ ?_ hentry _ 0 hkeeps text htext
    · intro l m hl hm
      rw [Ledger.names_add, marksAll_append, Ledger.added_add]
      omega
    · exact fun received text hle => Nat.le_sub_of_add_le' hle
  simpa [marksAll_cons] using hadded

end Keeping

/-! ## Dialects that keep what they are handed -/

theorem Script.keeps_refuse (n : Nat) (fault : ParameterFault) : (refuse fault).Keeps n := by
  intro text htext
  cases htext

/-- A script that writes an operand into a text. -/
theorem Script.keeps_operand {n : Nat} {operand : Operand} {write : String → String}
    (h : ∀ value, n + marksOf value ≤ marksOf (write value)) :
    (Script.operand operand (onText fun value => .done (.ok (write value)))).Keeps n := by
  intro result
  cases result with
  | error e =>
    intro text htext
    cases htext
  | ok value =>
    intro text htext
    rw [← Except.ok.inj htext, marksHanded]
    exact h value

/-- Behind the name of a column there may be anything. -/
theorem marksOf_name_le (name rest : String) : marksOf name ≤ marksOf (name ++ rest) := by
  rw [marksOf_append]
  exact Nat.le_add_right _ _

theorem Script.keeps_withOperand (name lead : String) (operand : Operand) :
    (Script.withOperand (name ++ lead) operand).Keeps (marksOf name) := by
  refine keeps_operand fun value => ?_
  rw [marksOf_append]
  exact Nat.add_le_add_right (marksOf_name_le name lead) _

/-- A script of the search engine's own syntax writes the name of its column first. -/
theorem Dialect.keepsNames_standard : Dialect.standard.KeepsNames := by
  intro operator script h c operand
  cases operator with
  | eq | ne | gt | gte | lt | lte | «matches» | isNot => cases h
  | between =>
    cases h
    unfold Script.between
    split
    · split_ifs
      · exact Script.keeps_refuse _ _
      · exact Script.keeps_refuse _ _
      · intro text htext
        obtain ⟨low, -, htext⟩ := bind_eq_ok.mp htext
        obtain ⟨high, -, htext⟩ := bind_eq_ok.mp htext
        rw [← Except.ok.inj htext, String.append_assoc, String.append_assoc, String.append_assoc]
        exact marksOf_name_le _ _
    · exact Script.keeps_refuse _ _
    · exact Script.keeps_refuse _ _
  | like =>
    cases h
    unfold Script.like
    split
    · intro text htext
      rw [← Except.ok.inj htext, String.append_assoc, String.append_assoc]
      exact marksOf_name_le _ _
    · exact Script.keeps_withOperand _ _ _
    · exact Script.keeps_withOperand _ _ _
    · intro text htext
      obtain ⟨value, -, htext⟩ := bind_eq_ok.mp htext
      rw [← Except.ok.inj htext, String.append_assoc, String.append_assoc]
      exact marksOf_name_le _ _
    · exact Script.keeps_refuse _ _
  | isIn =>
    cases h
    unfold Script.isIn
    split
    · split_ifs
      · exact Script.keeps_withOperand _ _ _
      · exact Script.keeps_refuse _ _
    · exact Script.keeps_refuse _ _

theorem Dialect.KeepsNames.insert {dialect : Dialect} (hkeeps : dialect.KeepsNames)
    {operator : Operator} {script : Column → Operand → Script}
    (h : ∀ c operand, (script c operand).Keeps (marksOf c.name)) :
    (dialect.insert operator (.script script)).KeepsNames := by
  intro other script' hform
  have hform' : (if other = operator then some (.script script) else dialect.form? other) =
      some (.script script') := hform
  split_ifs at hform' with heq
  · cases hform'
    exact h
  · exact hkeeps other script' hform'

/-! ## Searches -/

namespace Compiler

variable (compiler : Compiler) (clauses : List Clause) (order : Option Order)
  (limit offset : UInt64)

theorem compile_eq_strayMark_iff {text : String}
    (h : (compiler.renderQuery clauses order limit offset).outcome = .ok text) :
    compiler.compile clauses order limit offset = .error (.invalidParameter .strayMark) ↔
      (compiler.ledger clauses order).foreign ≠ (compiler.ledger clauses order).dropped := by
  obtain ⟨d, hd, hbalance⟩ : ∃ d, compiler.draft clauses order limit offset = .ok d ∧
      marks d.text.toList + (compiler.ledger clauses order).dropped =
        d.columns.length + (compiler.ledger clauses order).foreign := by
    refine ⟨⟨text, _, _⟩, draft_eq_ok.mpr ⟨h, rfl, rfl⟩, ?_⟩
    have hbalance := balances_renderQuery compiler clauses order limit offset text h
    rwa [Nat.zero_add] at hbalance
  constructor
  · intro herror hsame
    rcases compile_eq_error.mp herror with hdraft | ⟨d', hd', htemplate | ⟨-, htable⟩⟩
    · rw [hd] at hdraft
      cases hdraft
    · obtain rfl := Except.ok.inj (hd.symm.trans hd')
      rw [Draft.template_of_marks (by omega)] at htemplate
      cases htemplate
    · rcases Draft.ofTables_of_table htable with hnone | ⟨tables, htables⟩
      · cases hnone
      · cases htables
  · intro hne
    exact compile_eq_error.mpr (.inr ⟨d, hd, .inl (Draft.template_eq_error (by omega))⟩)

/-- If nothing is dropped, nothing foreign has a mark in what was compiled. -/
theorem unmarked_of_compile {p : Predicate} (hkeeps : compiler.dialect.Keeps)
    (hp : compiler.compile clauses order limit offset = .ok p) :
    (∀ text ∈ (compiler.ledger clauses order).texts, mark ∉ text.toList) ∧
      (compiler.ledger clauses order).added = 0 := by
  obtain ⟨d, hd, -⟩ := compile_eq_ok.mp hp
  obtain ⟨htext, -⟩ := draft_eq_ok.mp hd
  have hdropped := upheld_ledger compiler clauses order limit offset Ledger.isAdditive_dropped
    hkeeps.upholds htext
  have hrefused := (compile_eq_strayMark_iff compiler clauses order limit offset htext).not
  rw [hp, hdropped, not_not, Ledger.foreign_eq_zero_iff] at hrefused
  exact hrefused.mp (by simp)

/-- A compilation whose clauses render is refused for its marks exactly if those that stand for no
column do not make up for those that scripts dropped.

So if no script writes fewer marks than it is handed, no compilation succeeds with a mark in a text
that is written without a script or handed to one, or with more marks in the text of a script than
it was handed. If each script also makes up for the name of its column, none succeeds with a mark in
the name of a column that a script is run for, or of any column that is compared. -/
theorem foreign_marks_refused :
    (∀ text, (compiler.renderQuery clauses order limit offset).outcome = .ok text →
      (compiler.compile clauses order limit offset = .error (.invalidParameter .strayMark) ↔
        (compiler.ledger clauses order).foreign ≠ (compiler.ledger clauses order).dropped)) ∧
    (compiler.dialect.Keeps →
      ((∃ text ∈ (compiler.ledger clauses order).texts, mark ∈ text.toList) ∨
        (compiler.ledger clauses order).added ≠ 0) →
      ∀ p, compiler.compile clauses order limit offset ≠ .ok p) ∧
    (compiler.dialect.KeepsNames →
      ((∃ name ∈ (compiler.ledger clauses order).names, mark ∈ name.toList) ∨
        ∃ c ∈ Clause.comparisonsAll clauses, mark ∈ c.column.name.toList) →
      ∀ p, compiler.compile clauses order limit offset ≠ .ok p) := by
  refine ⟨fun text h => compile_eq_strayMark_iff compiler clauses order limit offset h, ?_, ?_⟩
  · rintro hkeeps hforeign p hp
    obtain ⟨htexts, hadded⟩ := unmarked_of_compile compiler clauses order limit offset hkeeps hp
    rcases hforeign with ⟨text, htext, hmark⟩ | hne
    · exact htexts text htext hmark
    · exact hne hadded
  · rintro hkeeps hforeign p hp
    obtain ⟨htexts, hadded⟩ :=
      unmarked_of_compile compiler clauses order limit offset hkeeps.keeps hp
    obtain ⟨d, hd, -⟩ := compile_eq_ok.mp hp
    obtain ⟨hrender, -⟩ := draft_eq_ok.mp hd
    -- nothing was added, so there is nothing that makes up for a name
    have hnames : ∀ name ∈ (compiler.ledger clauses order).names, mark ∉ name.toList := by
      have hle := upheld_ledger compiler clauses order limit offset Ledger.isAdditive_names
        hkeeps.upholds hrender
      rw [← marksAll_eq_zero_iff]
      omega
    rcases hforeign with ⟨name, hname, hmark⟩ | ⟨c, hc, hmark⟩
    · exact hnames name hname hmark
    · rcases mentions_name compiler clauses order limit offset hrender hc with htext | hname
      · exact htexts _ htext hmark
      · exact hnames _ hname hmark

end Compiler

/-- A script that asks for its operand and writes a wildcard instead. -/
def Script.discard (c : Column) (operand : Operand) : Script :=
  .operand operand (onText fun _ => .done (.ok (c.name ++ ":*")))

/-- A script that writes its operand twice. -/
def Script.echo (c : Column) (operand : Operand) : Script :=
  .operand operand (onText fun value => .done (.ok (c.name ++ ":" ++ value ++ " " ++ value)))

namespace Compiler

/-- The mark of a raw text stands for the column that a script dropped. -/
theorem foreign_mark_unnoticed :
    Compiler.compile { dialect := Dialect.standard.insert .eq (.script Script.discard) }
        [Column.eq ⟨"products", "author", .search⟩ (.column ⟨"products", "name", .relational⟩),
          .literal (.raw "\x00")] none 0 0 =
      .ok ⟨"products", "author:* and \"%s\"", ["replace(products.name, '\"', '')"]⟩ ∧
    (Compiler.ledger { dialect := Dialect.standard.insert .eq (.script Script.discard) }
        [Column.eq ⟨"products", "author", .search⟩ (.column ⟨"products", "name", .relational⟩),
          .literal (.raw "\x00")] none).texts = ["\x00"] :=
  ⟨rfl, rfl⟩

/-- A mark in a text for each script: the one that drops its column is balanced, and the one that
writes a value twice is refused, also if the mark is in the name of its column. -/
theorem foreign_marks_refused_scripts :
    (Compiler.compile { dialect := Dialect.standard.insert .eq (.script Script.discard) }
        [Column.eq ⟨"products", "author", .search⟩ (.column ⟨"products", "name", .relational⟩),
          .literal (.raw "\x00")] none 0 0 ≠ .error (.invalidParameter .strayMark)) ∧
    (∀ p, Compiler.compile { dialect := Dialect.standard.insert .eq (.script Script.echo) }
        [Column.eq ⟨"products", "author", .search⟩ (.literal (.raw "\x00"))] none 0 0 ≠ .ok p) ∧
    ∀ p, Compiler.compile { dialect := Dialect.standard.insert .eq (.script Script.echo) }
        [.any [Column.eq ⟨"products", "author\x00", .search⟩
          (.column ⟨"products", "name", .relational⟩)]] none 0 0 ≠ .ok p := by
  have hecho : (Dialect.standard.insert .eq (.script Script.echo)).KeepsNames := by
    refine Dialect.keepsNames_standard.insert fun c operand => Script.keeps_operand fun value => ?_
    simp only [marksOf_append]
    omega
  refine ⟨?_, ?_, ?_⟩
  · refine mt ((foreign_marks_refused _ _ none 0 0).1 "author:* and \x00" ?_).mp ?_
    · rfl
    · exact fun hne => hne rfl
  · exact (foreign_marks_refused _ _ none 0 0).2.1 hecho.keeps
      (.inl ⟨"\x00", List.mem_cons_self, by decide⟩)
  · exact (foreign_marks_refused _ _ none 0 0).2.2 hecho
      (.inr ⟨_, List.mem_cons_self, by decide⟩)

end Compiler

end HybridQuery
