import HybridQuery.Proofs.Nesting
import HybridQuery.Proofs.Splitter

/-!
# The clauses between the joiners

The clauses of a query, and the children of each group, are joined by a word between two spaces.
Cut at the joiners that stand outside of parentheses and quotes, a query falls into its clauses
again, and what is in the parentheses of a group into its children, except where a value `Mimics`
the joiner (`Compiler.splitAt_query_iff`).

Values have no space outside: those of a string are behind backslashes, those of a phrase in
quotes (`solid_renderLiteral`). What is left are the spaces of the tokens. Behind the second space
of ` != ` or ` > ` a string is written as it is if nothing in it is reserved, and neither `and` nor
`or` is. With the space of the joiner that follows, such a word looks like a joiner, and the cut is
made in front of it.
-/

namespace HybridQuery

/-! ## Values that look like a joiner -/

/-- A string that is written like the word of a joiner. -/
def Operand.IsWord (combinator : Combinator) : Operand → Prop
  | .literal (.string text) => withoutQuotes text.toList = combinator.word.toList
  | _ => False

/-- The value stands behind a space and is the word of a joiner. -/
def Comparison.Mimics (combinator : Combinator) (c : Comparison) : Prop :=
  c.operator.isSpaced = true ∧ c.operand.IsWord combinator

def Clause.Mimics (combinator : Combinator) : Clause → Prop
  | .comparison c => c.Mimics combinator
  | _ => False

instance (combinator : Combinator) : DecidablePred (Operand.IsWord combinator)
  | .literal (.string text) =>
    inferInstanceAs (Decidable (withoutQuotes text.toList = combinator.word.toList))
  | .literal (.integer _) | .literal (.float _) | .literal (.boolean _) | .literal .null
  | .literal (.pattern _) | .literal (.raw _) | .literal (.phrase _) | .literal (.table _)
  | .literal (.dateTime _) | .column _ | .list _ => inferInstanceAs (Decidable False)

instance (combinator : Combinator) : DecidablePred (Clause.Mimics combinator)
  | .comparison c =>
    inferInstanceAs (Decidable (c.operator.isSpaced = true ∧ c.operand.IsWord combinator))
  | .group _ _ | .literal _ | .column _ | .compiled _ => inferInstanceAs (Decidable False)

/-! ## Spaces of values -/

section Values

variable {value : Literal} {text : String}

theorem solid_escape {source : String} (h : '\\' ∉ source.toList) :
    Solid {} (escape source).toList :=
  solid_of_active_eq_nil (inert_escape h).active_eq_nil

theorem solid_quotePhrase (phrase : String) : Solid {} (quotePhrase phrase).toList := by
  refine solid_quoted ?_
  rw [String.toList_ofList]
  exact (quotable_phraseBody phrase.toList).quote

/-- A rendered literal has no space outside. -/
theorem solid_renderLiteral (hplain : value.IsPlain) (h : renderLiteral value = .ok text) :
    Solid {} text.toList := by
  rcases renderLiteral_cases hplain h with htext | ⟨source, hsource, rfl⟩ | ⟨phrase, -, rfl⟩
  · exact solid_of_space_not_mem htext.space
  · exact solid_escape hsource
  · exact solid_quotePhrase phrase

theorem solid_intercalate_comma : ∀ {texts : List String},
    (∀ text ∈ texts, Neutral text ∧ Solid {} text.toList) →
      Solid {} (",".intercalate texts).toList
  | [], _ => solid_nil _
  | [text], h => by
    rw [String.intercalate_singleton]
    exact (h text List.mem_cons_self).2
  | text :: other :: rest, h => by
    obtain ⟨⟨hneutral, hsolid⟩, hrest⟩ := List.forall_mem_cons.mp h
    have hcomma : Scan.run {} ",".toList = {} := rfl
    rw [String.intercalate_cons_cons, String.toList_append, String.toList_append, solid_append,
      solid_append, Scan.run_append, hneutral.reads.run_eq, hcomma]
    exact ⟨⟨hsolid, solid_of_space_not_mem (by decide)⟩, solid_intercalate_comma hrest⟩

theorem solid_renderList {values : List Literal} (hplain : ∀ value ∈ values, value.IsPlain)
    (h : renderList values = .ok text) : Solid {} text.toList := by
  obtain ⟨texts, htexts, h⟩ := bind_eq_ok.mp h
  cases h
  have hinner : Solid {} (",".intercalate texts).toList := by
    refine solid_intercalate_comma fun text htext => ?_
    obtain ⟨value, hvalue, hrender⟩ :=
      Logged.exists_of_mem_each (Logged.each_of_mapM htexts) text htext
    exact ⟨neutral_renderLiteral (hplain value hvalue) hrender,
      solid_renderLiteral (hplain value hvalue) hrender⟩
  have hlist : ("[" ++ ",".intercalate texts ++ "]").toList =
      '[' :: ((",".intercalate texts).toList ++ [']']) := by simp
  rw [hlist, solid_cons]
  exact ⟨fun _ => by decide,
    (solid_append [']']).mpr ⟨hinner, solid_of_space_not_mem (by decide)⟩⟩

/-! ## Values that are a word -/

theorem not_numeral_word (combinator : Combinator) : ¬Numeral combinator.word.toList := by
  cases combinator <;> simp [Combinator.word, isNumeral]

/-- A text that is changed is changed by adding `d` to it. -/
theorem eq_of_flatMap_eq {f : Char → List Char} {d : Char} (hf : ∀ c, f c = [c] ∨ d ∈ f c) :
    ∀ {chars word : List Char}, d ∉ word → chars.flatMap f = word → chars = word
  | [], _, _, h => h
  | c :: rest, word, hd, h => by
    subst h
    rw [List.flatMap_cons, List.mem_append, not_or] at hd
    rw [List.flatMap_cons, (hf c).resolve_right hd.1, List.singleton_append,
      ← eq_of_flatMap_eq hf hd.2 rfl]

/-- Nothing in a word is escaped. -/
theorem escape_eq_word_iff {source : String} {combinator : Combinator} :
    escape source = combinator.word ↔ withoutQuotes source.toList = combinator.word.toList := by
  rw [← String.toList_inj, toList_escape, escapeChars]
  constructor
  · refine eq_of_flatMap_eq (d := '\\') (fun c => ?_) (by cases combinator <;> decide)
    unfold escapeChar
    split_ifs
    · exact .inr List.mem_cons_self
    · exact .inl rfl
  · intro h
    rw [h]
    cases combinator <;> rfl

/-- Only a string is written like the word of a joiner. -/
theorem renderLiteral_eq_word_iff {combinator : Combinator} (hplain : value.IsPlain) :
    renderLiteral value = .ok combinator.word ↔ (Operand.literal value).IsWord combinator := by
  cases value with
  | string source =>
    rw [renderLiteral, Except.ok.injEq]
    exact escape_eq_word_iff
  | integer n =>
    refine iff_of_false (fun h => not_numeral_word combinator ?_) id
    rw [← Except.ok.inj h]
    exact Numeral.integerText n.toInt
  | float x =>
    exact iff_of_false (fun h => not_numeral_word combinator (numeral_renderNumber h)) id
  | boolean b => cases b <;> cases combinator <;> exact iff_of_false (by decide) id
  | null => cases combinator <;> exact iff_of_false (by decide) id
  | raw source => exact hplain.elim
  | phrase phrase =>
    refine iff_of_false (fun h => ?_) id
    have hhead := congrArg (fun text : String => text.toList.head?) (Except.ok.inj h)
    cases combinator <;> simp [quotePhrase, Combinator.word] at hhead
  | pattern _ | table _ => exact iff_of_false (fun h => by cases h) id
  | dateTime t =>
    refine iff_of_false (fun h => ?_) id
    rw [renderLiteral, DateTime.text] at h
    cases hdate : t.rfc3339 with
    | error part =>
      rw [hdate] at h
      cases h
    | ok source =>
      rw [hdate] at h
      -- a word of a date would be made of the signs that numbers are written with
      have hword := escape_eq_word_iff.mp (Except.ok.inj h)
      refine not_numeral_word combinator ?_
      rw [← hword]
      exact (Numeral.rfc3339 hdate).of_subset fun c hc => (List.mem_filter.mp hc).1

end Values

/-! ## Texts as they are written -/

theorem formatText_eq_word_iff {text : String} {combinator : Combinator} :
    formatText text = combinator.word ↔ text = combinator.word := by
  constructor
  · intro h
    have hlist : text.toList.flatMap templateChar = combinator.word.toList := by
      rw [← h, formatText, String.toList_ofList]
    refine String.toList_inj.mp (eq_of_flatMap_eq (d := '%') (fun c => ?_) ?_ hlist)
    · unfold templateChar
      split_ifs
      · exact .inr List.mem_cons_self
      · exact .inr (by decide)
      · exact .inl rfl
    · cases combinator <;> decide
  · rintro rfl
    cases combinator <;> rfl

theorem space_not_mem_formatText {text : String} (h : ' ' ∉ text.toList) :
    ' ' ∉ (formatText text).toList := by
  rw [formatText, String.toList_ofList, List.mem_flatMap]
  rintro ⟨c, hc, hspace⟩
  have hne : c ≠ ' ' := ne_of_mem_of_not_mem hc h
  unfold templateChar at hspace
  split_ifs at hspace
  · simp at hspace
  · simp at hspace
  · exact hne (List.mem_singleton.mp hspace).symm

/-- A percent sign that is doubled is no space. -/
theorem solid_formatText {text : String} (hmark : mark ∉ text.toList) (h : Solid {} text.toList) :
    Solid {} (formatText text).toList := by
  rw [formatText, String.toList_ofList]
  generalize ({} : Scan) = s at h
  generalize text.toList = chars at hmark h
  induction chars generalizing s with
  | nil => exact solid_nil s
  | cons c rest ih =>
    obtain ⟨hc, hrest⟩ := not_or.mp (List.mem_cons.not.mp hmark)
    obtain ⟨hspace, hsolid⟩ := solid_cons.mp h
    rw [List.flatMap_cons, templateChar, if_neg (Ne.symm hc)]
    split_ifs with hpercent
    · subst hpercent
      have hplain : ∀ s : Scan, s.next '%' = { s with shielded := false } := by
        intro s
        rw [Scan.next_of_not_mem fun _ => by decide]
        simp [shield]
      rw [hplain] at hsolid
      rw [List.cons_append, List.singleton_append, solid_cons, solid_cons, hplain, hplain]
      exact ⟨fun _ => by decide, fun _ => by decide, ih _ hrest hsolid⟩
    · exact solid_cons.mpr ⟨hspace, ih _ hrest hsolid⟩

namespace Predicate

variable {p : Predicate} {text : String}

theorem written_eq_word_iff {combinator : Combinator} :
    p.written text = combinator.word ↔ text = combinator.word := by
  unfold written
  split_ifs
  · rfl
  · exact formatText_eq_word_iff

theorem solid_written_of_space_not_mem (h : ' ' ∉ text.toList) :
    Solid {} (p.written text).toList := by
  unfold written
  split_ifs
  · exact solid_of_space_not_mem h
  · exact solid_of_space_not_mem (space_not_mem_formatText h)

theorem solid_written (hmark : mark ∉ text.toList) (h : Solid {} text.toList) :
    Solid {} (p.written text).toList := by
  unfold written
  split_ifs
  · exact h
  · exact solid_formatText hmark h

end Predicate

/-! ## Operands -/

section Operands

variable {p : Predicate} {operand : Operand} {text : String}

/-- What a column is compared with has no space outside. -/
theorem solid_written_renderOperand (hplain : operand.IsPlain)
    (hmarks : ∀ t ∈ operand.texts, mark ∉ t.toList)
    (h : (renderOperand operand).outcome = .ok text) : Solid {} (p.written text).toList := by
  cases operand with
  | literal value =>
    exact Predicate.solid_written ((accounts_renderLiteral value).mark_not_mem hmarks h)
      (solid_renderLiteral hplain h)
  | column c =>
    cases h
    exact Predicate.solid_written_of_space_not_mem (by decide)
  | list values =>
    exact Predicate.solid_written ((accounts_renderList values).mark_not_mem hmarks h)
      (solid_renderList hplain h)

/-- Columns and lists are not written like a word. -/
theorem written_renderOperand_eq_word_iff {combinator : Combinator} (hplain : operand.IsPlain)
    (h : (renderOperand operand).outcome = .ok text) :
    p.written text = combinator.word ↔ operand.IsWord combinator := by
  rw [Predicate.written_eq_word_iff]
  cases operand with
  | literal value =>
    rw [← renderLiteral_eq_word_iff hplain]
    have hvalue : renderLiteral value = .ok text := h
    rw [hvalue, Except.ok.injEq]
  | column c =>
    cases h
    cases combinator <;> exact iff_of_false (by decide) id
  | list values =>
    obtain ⟨texts, -, h⟩ := bind_eq_ok.mp h
    cases h
    refine iff_of_false (fun h => ?_) id
    have hhead := congrArg (fun text : String => text.toList.head?) h
    cases combinator <;> simp [Combinator.word] at hhead

end Operands

/-! ## Pieces -/

/-- A text that is cut out at the joiners around it, unless it mimics one and another follows. -/
structure Cuttable (combinator : Combinator) (mimics : Prop) (text : String) : Prop where
  /-- Nothing that the text opens is open at its end. -/
  run_eq : Scan.run {} text.toList = {}
  passes : ∀ rest, Follows rest → (mimics → rest = []) →
    Passes combinator.joiner.toList rest {} text.toList
  /-- A text that mimics a joiner ends in its word, and no joiner begins earlier. -/
  mimicked : mimics → ∃ lead, text.toList = lead ++ ' ' :: combinator.word.toList ∧
    Scan.run {} lead = {} ∧ ∀ rest, Passes combinator.joiner.toList (' ' :: rest) {} lead

namespace Cuttable

variable {combinator : Combinator} {mimics : Prop} {text : String}

theorem of_solid (hrun : Scan.run {} text.toList = {}) (hsolid : Solid {} text.toList)
    (h : ¬mimics) : Cuttable combinator mimics text :=
  ⟨hrun, fun rest _ _ => passes_of_solid combinator rest hsolid, fun hmimics => absurd hmimics h⟩

/-- Of a text behind a space a joiner takes nothing but a whole word. -/
theorem passes_behind_iff {lead value rest : List Char} (hrest : Follows rest)
    (hlead : Passes combinator.joiner.toList (' ' :: (value ++ rest)) {} lead)
    (hrun : Scan.run {} lead = {}) (hvalue : Solid {} value) :
    Passes combinator.joiner.toList rest {} (lead ++ ' ' :: value) ↔
      (value = combinator.word.toList → rest = []) := by
  have hplain : ∀ c ∈ combinator.word.toList, Scan.next {} c = {} := by
    cases combinator <;> simp [Combinator.word, Scan.next]
  have hspace : ' ' ∉ combinator.word.toList := by
    cases combinator <;> decide
  have hword := word_prefix_iff hplain hspace hrest hvalue
  have hnext : Scan.next {} ' ' = {} := rfl
  rw [passes_append, hrun, List.cons_append, and_iff_right hlead, Passes, hnext,
    and_iff_left (passes_of_solid combinator rest hvalue), and_iff_right rfl,
    combinator.toList_joiner, List.cons_prefix_cons, and_iff_right rfl, hword, not_and_not_right]

/-- A value behind a space, and in front of it a text without a space outside but for one that a
sign stands behind. -/
theorem of_spaced {name sign value : String}
    (hname : Solid {} name.toList) (hrun : Scan.run {} (name ++ " " ++ sign).toList = {})
    (hname' : Scan.run {} name.toList = {}) (hsign : Solid {} sign.toList)
    (hword : sign ≠ combinator.word) (hvalue : Solid {} value.toList)
    (hvalue' : Scan.run {} value.toList = {}) (hmimics : value = combinator.word ↔ mimics) :
    Cuttable combinator mimics (name ++ " " ++ sign ++ " " ++ value) := by
  have hlist : (name ++ " " ++ sign ++ " " ++ value).toList =
      (name ++ " " ++ sign).toList ++ ' ' :: value.toList := by simp
  have hlead (rest : List Char) :
      Passes combinator.joiner.toList (' ' :: rest) {} (name ++ " " ++ sign).toList := by
    have hnamelist : (name ++ " " ++ sign).toList = name.toList ++ ' ' :: sign.toList := by simp
    rw [hnamelist]
    refine (passes_behind_iff (.inr rfl) ?_ hname' hsign).mpr fun heq => ?_
    · exact passes_of_solid combinator _ hname
    · exact absurd (String.toList_inj.mp heq) hword
  have hnext : Scan.next {} ' ' = {} := rfl
  refine ⟨?_, fun rest hrest hlast => ?_, fun h => ⟨(name ++ " " ++ sign).toList, ?_, hrun, hlead⟩⟩
  · rw [hlist, Scan.run_append, hrun, Scan.run_cons, hnext, hvalue']
  · rw [hlist]
    refine (passes_behind_iff hrest (hlead _) hrun hvalue).mpr fun heq => hlast ?_
    exact hmimics.mp (String.toList_inj.mp heq)
  · rw [hlist, hmimics.mpr h]

end Cuttable

/-! ## Lists of pieces -/

section Lists

variable {combinator : Combinator}

theorem splitAt_of_cuttable {mimics : Prop} {text : String} (h : Cuttable combinator mimics text) :
    splitAt combinator text = [text] := by
  have hpasses := pieces_append [] (h.passes [] (.inl rfl) fun _ => rfl)
  rw [List.append_nil, h.run_eq, pieces, prependFirst_cons, List.append_nil] at hpasses
  rw [splitAt, hpasses, List.map_singleton, String.ofList_toList]

/-- A text in front of a joiner is a piece. -/
theorem splitAt_append {mimics : Prop} {text : String} (h : Cuttable combinator mimics text)
    (hmimics : ¬mimics) (rest : String) :
    splitAt combinator (text ++ combinator.joiner ++ rest) = text :: splitAt combinator rest := by
  have hjoiner : combinator.joiner.toList ≠ [] := by cases combinator <;> decide
  have hfollows : Follows (combinator.joiner.toList ++ rest.toList) := by
    rw [combinator.toList_joiner]
    exact .inr rfl
  have hpasses := pieces_append _ (h.passes _ hfollows fun hm => absurd hm hmimics)
  rw [h.run_eq, pieces_joiner hjoiner, prependFirst_cons, List.append_nil] at hpasses
  rw [splitAt, String.toList_append, String.toList_append, List.append_assoc, hpasses,
    List.map_cons, String.ofList_toList]
  rfl

/-- A text that mimics a joiner loses its last word to the next piece. -/
theorem splitAt_append_of_mimics {mimics : Prop} {text : String}
    (h : Cuttable combinator mimics text) (hmimics : mimics) (rest : String)
    (texts : List String) : splitAt combinator (text ++ combinator.joiner ++ rest) ≠
      text :: texts := by
  obtain ⟨lead, htext, hrun, hlead⟩ := h.mimicked hmimics
  have hjoiner : combinator.joiner.toList ≠ [] := by cases combinator <;> decide
  have hlist : (text ++ combinator.joiner ++ rest).toList =
      lead ++ (combinator.joiner.toList ++ (combinator.word.toList ++ ' ' :: rest.toList)) := by
    simp [htext, combinator.toList_joiner]
  have hfollows : combinator.joiner.toList ++ (combinator.word.toList ++ ' ' :: rest.toList) =
      ' ' :: (combinator.word.toList ++ [' '] ++
        (combinator.word.toList ++ ' ' :: rest.toList)) := by
    rw [combinator.toList_joiner]
    rfl
  have hpasses := pieces_append _ (hfollows ▸ hlead _)
  rw [hrun, pieces_joiner hjoiner, prependFirst_cons, List.append_nil] at hpasses
  rw [splitAt, hlist, hpasses, List.map_cons]
  intro heq
  have hlead : lead = text.toList := by
    rw [← (List.cons.inj heq).1, String.toList_ofList]
  have hlength := congrArg List.length (hlead.trans htext)
  simp at hlength

/-- Joined texts fall apart into themselves exactly if none but the last mimics the joiner. -/
theorem splitAt_intercalate_iff {mimics : Clause → Prop} :
    ∀ {clauses : List Clause} {texts : List String}, clauses ≠ [] →
      List.Forall₂ (fun clause text => Cuttable combinator (mimics clause) text) clauses texts →
      (splitAt combinator (combinator.joiner.intercalate texts) = texts ↔
        ∀ clause ∈ clauses.dropLast, ¬mimics clause)
  | [_], [text], _, .cons htext .nil => by
    rw [String.intercalate_singleton, splitAt_of_cuttable htext]
    simp
  | first :: second :: rest, text :: other :: texts, _, .cons htext hrest => by
    have ih := splitAt_intercalate_iff (List.cons_ne_nil second rest) hrest
    rw [String.intercalate_cons_cons, List.dropLast_cons_cons, List.forall_mem_cons]
    by_cases hmimics : mimics first
    · exact iff_of_false (splitAt_append_of_mimics htext hmimics _ _) fun h => h.1 hmimics
    · rw [splitAt_append htext hmimics, List.cons.injEq, and_iff_right rfl, ih,
        and_iff_right hmimics]

end Lists

/-! ## Clauses in a query -/

section Clauses

variable {p : Predicate} {combinator : Combinator}

theorem Compact.solid_written {text : String} (h : Compact text) :
    Solid {} (p.written text).toList :=
  Predicate.solid_written_of_space_not_mem h.space

theorem Compact.run_written {text : String} (h : Compact text) :
    Scan.run {} (p.written text).toList = {} :=
  (p.neutral_written h.toPlainText).reads.run_eq

/-- A name and a token without spaces add none. -/
theorem solid_lead {lead value : String} (hlead : Compact lead)
    (hvalue : Solid {} (p.written value).toList) :
    Solid {} (p.written (lead ++ value)).toList := by
  rw [Predicate.written_append, String.toList_append, solid_append, hlead.run_written]
  exact ⟨hlead.solid_written, hvalue⟩

theorem cuttable_spaced {name sign value : String} {mimics : Prop} (hname : Compact name)
    (hsign : Compact sign) (hword : sign ≠ combinator.word)
    (hvalue : Solid {} (p.written value).toList) (hreads : Reads (p.written value) [])
    (hmimics : p.written value = combinator.word ↔ mimics) :
    Cuttable combinator mimics (p.written (name ++ (" " ++ sign ++ " ") ++ value)) := by
  have hspace : p.written " " = " " := by
    unfold Predicate.written
    split_ifs <;> rfl
  have htext : p.written (name ++ (" " ++ sign ++ " ") ++ value) =
      p.written name ++ " " ++ p.written sign ++ " " ++ p.written value := by
    simp only [Predicate.written_append, hspace, String.append_assoc]
  have hlead := p.neutral_written
    ((hname.toPlainText.append (t := " ") (by decide)).append hsign.toPlainText)
  rw [Predicate.written_append, Predicate.written_append, hspace] at hlead
  rw [htext]
  exact .of_spaced hname.solid_written hlead.reads.run_eq hname.run_written hsign.solid_written
    (Predicate.written_eq_word_iff.not.mpr hword) hvalue hreads.run_eq hmimics

/-- A comparison that is written without marks, and without spaces but those of its token and its
value. -/
structure Comparison.IsCompact (c : Comparison) : Prop where
  name : Compact c.column.name
  operand : c.operand.IsPlain
  marks : ∀ t ∈ c.operand.texts, mark ∉ t.toList

/-- A comparison is cut out at the joiners around it unless its value mimics one. -/
theorem cuttable_of_shape {c : Comparison} {text : String} (hcompact : c.IsCompact)
    (h : c.Shape text) : Cuttable combinator (c.Mimics combinator) (p.written text) := by
  obtain ⟨hname, hoperand, hmarks⟩ := hcompact
  have hreads := reads_of_shape p hname.toPlainText hoperand hmarks h
  have hnot (hspaced : c.operator.isSpaced = false) : ¬c.Mimics combinator := by
    rintro ⟨htrue, -⟩
    rw [hspaced] at htrue
    cases htrue
  cases h with
  | joined hspaced htoken hvalue =>
    exact .of_solid hreads.run_eq (solid_lead (hname.append htoken)
      (solid_written_renderOperand hoperand hmarks hvalue)) (hnot hspaced)
  | @spaced sign _ hspaced hsign hvalue =>
    have hsigns : ∀ sign ∈ ["!=", ">", ">=", "<", "<="],
        Compact sign ∧ sign ≠ combinator.word := by
      cases combinator <;> decide
    obtain ⟨hcompact, hother⟩ := hsigns sign hsign
    have hword : p.written _ = combinator.word ↔ _ :=
      written_renderOperand_eq_word_iff hoperand hvalue
    exact cuttable_spaced hname hcompact hother
      (solid_written_renderOperand hoperand hmarks hvalue)
      (reads_renderOperand p hoperand hmarks hvalue) (hword.trans (and_iff_right hspaced).symm)
  | @range low high hspaced hlow hhigh =>
    have hto : c.column.name ++ ":" ++ low ++ " /to/ " ++ high =
        c.column.name ++ ":" ++ low ++ (" " ++ "/to/" ++ " ") ++ high := rfl
    have hword : p.written high ≠ combinator.word := by
      refine Predicate.written_eq_word_iff.not.mpr fun heq => not_numeral_word combinator ?_
      rwa [← heq]
    rw [hto]
    exact cuttable_spaced ((hname.append (by decide)).append (.of_numeral hlow)) (by decide)
      (by cases combinator <;> decide) (Compact.of_numeral hhigh).solid_written
      (p.neutral_written (Compact.of_numeral hhigh).toPlainText).reads
      (iff_of_false hword (hnot hspaced))
  | @quoted _ body hspaced htoken hbody hmark =>
    have hquoted : mark ∉ ("\"" ++ body ++ "\"").toList := by
      simpa using ⟨by decide, hmark, by decide⟩
    exact .of_solid hreads.run_eq (solid_lead (hname.append htoken)
      (Predicate.solid_written hquoted (solid_quoted hbody.quote))) (hnot hspaced)

namespace Clause

variable {compiler : Compiler}

/-- A clause is cut out at the joiners around it unless it is a comparison that mimics one. -/
theorem Shown.cuttable {nested : Clause → Rendered} {clause : Clause} {text : String}
    (hnested : compiler.render = renderClause .standard nested)
    (hcompact : ∀ c, clause = .comparison c → c.IsCompact) (h : clause.Shown compiler p text) :
    Cuttable combinator (clause.Mimics combinator) text := by
  cases h with
  | @comparison c text hrender _ =>
    have hc := hcompact c rfl
    rw [hnested] at hrender
    exact cuttable_of_shape hc (shape_renderComparison hc.operand hc.marks hrender)
  | @group inner _ _ hchildren hreads =>
    have hjoiner : Neutral inner.joiner := by cases inner <;> exact .of_plain (by decide)
    exact .of_solid hreads.run_eq (reads_of_shown hchildren hjoiner).solid_parenthesized id

/-- Every node of a clause that is shown is shown. -/
theorem Shown.of_mem_nodes {clause node : Clause} (hnode : node ∈ clause.nodes) :
    ∀ {text : String}, clause.Shown compiler p text → ∃ t, node.Shown compiler p t := by
  induction clause with
  | comparison _ | literal _ | column _ | compiled _ =>
    intro text h
    obtain rfl := List.mem_singleton.mp hnode
    exact ⟨text, h⟩
  | group inner children ih =>
    intro text h
    rw [nodes_group, List.mem_cons, List.mem_flatMap] at hnode
    rcases hnode with rfl | ⟨child, hchild, hnode⟩
    · exact ⟨text, h⟩
    · cases h with
      | group hchildren _ =>
        have hshown : ∀ child ∈ children, ∃ t, child.Shown compiler p t :=
          forall_mem_of_forall₂ hchildren fun _ t ht => ⟨t, ht⟩
        obtain ⟨t, ht⟩ := hshown child hchild
        exact ih child hchild hnode ht

/-- Every node of clauses that are shown is shown. -/
theorem exists_shown_of_mem_nodesAll {node : Clause} {clauses : List Clause}
    {texts : List String} (h : List.Forall₂ (Shown compiler p) clauses texts)
    (hnode : node ∈ nodesAll clauses) : ∃ t, node.Shown compiler p t := by
  have hshown : ∀ clause ∈ clauses, ∃ t, clause.Shown compiler p t :=
    forall_mem_of_forall₂ h fun _ t ht => ⟨t, ht⟩
  rw [nodesAll_eq, List.mem_flatMap] at hnode
  obtain ⟨clause, hclause, hnode⟩ := hnode
  obtain ⟨t, ht⟩ := hshown clause hclause
  exact ht.of_mem_nodes hnode

/-- Texts of clauses fall apart at the joiners between them exactly if none but the last mimics
one. -/
theorem splitAt_of_shown {nested : Clause → Rendered} {clauses : List Clause} {texts : List String}
    (hnested : compiler.render = renderClause .standard nested) (hne : clauses ≠ [])
    (hcompact : ∀ c, .comparison c ∈ clauses → c.IsCompact)
    (h : List.Forall₂ (Shown compiler p) clauses texts) :
    splitAt combinator (combinator.joiner.intercalate texts) = texts ↔
      ∀ clause ∈ clauses.dropLast, ¬clause.Mimics combinator := by
  refine splitAt_intercalate_iff hne (forall₂_imp_of_mem h fun clause hclause text hshown => ?_)
  exact hshown.cuttable hnested fun c hc => hcompact c (hc ▸ hclause)

end Clause

section Compiled

variable {columnSql : Column → String} {nesting : Nat} {clauses : List Clause}
  {limit offset : UInt64}

/-- The comparisons of plain clauses that compile are compact if the names of their columns are. -/
theorem Clause.isCompact_of_compile (hplain : ∀ node ∈ Clause.nodesAll clauses, node.IsPlain)
    (hspace : ∀ c ∈ Clause.comparisonsAll clauses, ' ' ∉ c.column.name.toList)
    (h : Compiler.compile ⟨.standard, columnSql, nesting⟩ clauses none limit offset = .ok p) :
    ∀ c, .comparison c ∈ Clause.nodesAll clauses → c.IsCompact := by
  intro c hc
  obtain ⟨hname, hoperand⟩ := hplain _ hc
  have hmarks := Compiler.mark_not_mem_texts hplain h
  rw [Clause.nodesAll_eq, List.mem_flatMap] at hc
  obtain ⟨clause, hclause, hc⟩ := hc
  have hmem : c ∈ Clause.comparisonsAll clauses := by
    rw [Clause.comparisonsAll_eq]
    exact List.mem_flatMap.mpr ⟨clause, hclause, Clause.mem_comparisons_of_mem_nodes hc⟩
  refine ⟨⟨hname, hspace c hmem⟩, hoperand, fun t ht => ?_⟩
  have hown : t ∈ clause.texts :=
    List.mem_flatMap.mpr ⟨_, hc, List.mem_cons_of_mem _ ht⟩
  exact hmarks t (List.mem_flatMap.mpr ⟨clause, hclause, hown⟩)

/-- The groups of plain clauses that compile are not empty. -/
theorem Clause.children_ne_nil_of_compile (hplain : ∀ node ∈ Clause.nodesAll clauses, node.IsPlain)
    (h : Compiler.compile ⟨.standard, columnSql, nesting⟩ clauses none limit offset = .ok p)
    {children : List Clause} (hgroup : .group combinator children ∈ Clause.nodesAll clauses) :
    children ≠ [] := by
  have hsearchable := (Compiler.searchable_of_compile h).nodes
  rw [Clause.undeclared_of_not_declare (Compiler.head?_ne_declare hplain)] at hsearchable
  exact hsearchable _ hgroup

end Compiled

/-- The query of plain clauses, cut at each `and` that stands outside of parentheses and quotes,
falls apart into the texts of the clauses exactly if no clause but the last mimics the joiner; and
so does the inside of each group at its own joiner. -/
theorem Compiler.splitAt_query_iff (columnSql : Column → String) (nesting : Nat)
    (clauses : List Clause) (limit offset : UInt64) (p : Predicate)
    (hplain : ∀ node ∈ Clause.nodesAll clauses, node.IsPlain)
    (hspace : ∀ c ∈ Clause.comparisonsAll clauses, ' ' ∉ c.column.name.toList)
    (h : Compiler.compile ⟨.standard, columnSql, nesting⟩ clauses none limit offset = .ok p) :
    (∃ texts, p.query = " and ".intercalate texts ∧
      List.Forall₂ (Clause.Shown ⟨.standard, columnSql, nesting⟩ p) clauses texts ∧
      (splitAt .and p.query = texts ↔ ∀ clause ∈ clauses.dropLast, ¬clause.Mimics .and)) ∧
    ∀ combinator children, .group combinator children ∈ Clause.nodesAll clauses →
      ∃ texts, (Clause.group combinator children).Shown ⟨.standard, columnSql, nesting⟩ p
          ("(" ++ combinator.joiner.intercalate texts ++ ")") ∧
        List.Forall₂ (Clause.Shown ⟨.standard, columnSql, nesting⟩ p) children texts ∧
        (splitAt combinator (combinator.joiner.intercalate texts) = texts ↔
          ∀ clause ∈ children.dropLast, ¬clause.Mimics combinator) := by
  obtain ⟨nested, hnested⟩ := render_eq_renderClause ⟨.standard, columnSql, nesting⟩
  obtain ⟨texts, hquery, hshown⟩ := shown_query hplain h
  have hcompact := Clause.isCompact_of_compile hplain hspace h
  refine ⟨⟨texts, hquery, hshown, ?_⟩, fun combinator children hgroup => ?_⟩
  · have hne : clauses ≠ [] := by
      rintro rfl
      cases h
    rw [hquery]
    exact Clause.splitAt_of_shown hnested hne
      (fun c hc => hcompact c (Clause.mem_nodesAll_of_mem hc)) hshown
  · have hne := Clause.children_ne_nil_of_compile hplain h hgroup
    obtain ⟨inner, hinner⟩ := Clause.exists_shown_of_mem_nodesAll hshown hgroup
    cases hinner with
    | @group _ _ texts hchildren hreads =>
      exact ⟨texts, .group hchildren hreads, hchildren, Clause.splitAt_of_shown hnested hne
        (fun c hc => hcompact c (Clause.mem_nodesAll_of_group hgroup hc)) hchildren⟩

/-- The value `and` behind the spaces of a token is taken for the joiner. -/
theorem Compiler.splitAt_query_mimicked :
    ∃ (clauses : List Clause) (p : Predicate),
      clauses = [Column.ne ⟨"products", "author", .search⟩ (.literal (.string "and")),
        Column.eq ⟨"products", "name", .search⟩ (.literal (.string "x"))] ∧
      (clauses.map fun clause => (Compiler.render {} clause).outcome) =
        [.ok "author != and", .ok "name:x"] ∧
      Compiler.compile {} clauses none 0 0 = .ok p ∧
      p.query = "author != and and name:x" ∧
      splitAt .and p.query = ["author !=", "and name:x"] :=
  ⟨_, ⟨"products", "author != and and name:x", []⟩, rfl, rfl, rfl, rfl, rfl⟩

/-- The words of the joiners as values: behind a colon, in the last place, and where the other word
joins. -/
theorem Compiler.splitAt_query_words :
    ∃ (clauses : List Clause) (p : Predicate),
      clauses =
        [Column.ne ⟨"products", "author", .search⟩ (.literal (.string "or")),
        .any [Column.gt ⟨"products", "name", .search⟩ (.literal (.string "and")),
          Column.eq ⟨"products", "name", .search⟩ (.literal (.string "or")),
          Column.lt ⟨"products", "note", .search⟩ (.literal (.phrase "a or b"))],
        Column.isNot ⟨"products", "note", .search⟩ (.literal (.string "and"))] ∧
      Compiler.compile {} clauses none 0 0 = .ok p ∧
      p.query = "author != or and (name > and or name:or or note < \"a or b\") and note != and" ∧
      splitAt .and p.query =
        ["author != or", "(name > and or name:or or note < \"a or b\")", "note != and"] ∧
      ∃ texts, splitAt .and p.query = texts ∧ List.Forall₂ (Clause.Shown {} p) clauses texts := by
  have hcompile : Compiler.compile {}
      [Column.ne ⟨"products", "author", .search⟩ (.literal (.string "or")),
      .any [Column.gt ⟨"products", "name", .search⟩ (.literal (.string "and")),
        Column.eq ⟨"products", "name", .search⟩ (.literal (.string "or")),
        Column.lt ⟨"products", "note", .search⟩ (.literal (.phrase "a or b"))],
      Column.isNot ⟨"products", "note", .search⟩ (.literal (.string "and"))] none 0 0 =
        .ok ⟨"products",
          "author != or and (name > and or name:or or note < \"a or b\") and note != and", []⟩ :=
    rfl
  obtain ⟨⟨texts, -, hshown, hsplit⟩, -⟩ :=
    splitAt_query_iff _ _ _ _ _ _ (by decide) (by decide) hcompile
  exact ⟨_, _, rfl, hcompile, rfl, rfl, texts, hsplit.mpr (by decide), hshown⟩

end Clauses

end HybridQuery
