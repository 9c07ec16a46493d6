import HybridQuery.Proofs.Nesting

/-!
# Where a quoted run ends

`LIKE` puts what it matches between double quotes, and the engine reads such a run up to the first
quote that is not behind a backslash (`afterQuote`). The run is closed if that quote is its last
character (`IsQuotedRun`); otherwise the engine reads on in the clause that follows.

Double quotes never are part of what is put between them, so whether a run is closed depends on
its end alone: a body that shields the next character shields the closing quote
(`isQuotedRun_iff`). A phrase loses the backslashes at its end and is always closed. A string and a
pattern keep theirs, and the double quotes they lose may have stood behind some. They are closed if
they end, without their double quotes, in an even number of backslashes
(`renderComparison_like_isQuotedRun_iff`).
-/

namespace HybridQuery

/-- What follows the first double quote that is not shielded. -/
def afterQuote (shielded : Bool) : List Char → Option (List Char)
  | [] => none
  | c :: rest =>
    if c = '"' ∧ shielded = false then some rest else afterQuote (shield shielded c) rest

/-- A text that begins with a double quote and ends with the next one that is not shielded. -/
def IsQuotedRun (text : String) : Prop :=
  text.toList.head? = some '"' ∧ afterQuote false text.toList.tail = some []

instance : DecidablePred IsQuotedRun := fun text =>
  inferInstanceAs (Decidable (text.toList.head? = some '"' ∧
    afterQuote false text.toList.tail = some []))

/-- A quote is only read where no backslash shields it. -/
theorem afterQuote_append_quote {body : List Char} (h : '"' ∉ body) (rest : List Char) :
    ∀ shielded, afterQuote shielded (body ++ '"' :: rest) =
      if shields shielded body then afterQuote false rest else some rest := by
  induction body with
  | nil =>
    intro shielded
    cases shielded <;> simp [afterQuote, shields, shield]
  | cons c body ih =>
    intro shielded
    obtain ⟨hc, hbody⟩ := not_or.mp (List.mem_cons.not.mp h)
    have hpass : ¬(c = '"' ∧ shielded = false) := fun hquote => hc hquote.1.symm
    rw [List.cons_append, afterQuote, if_neg hpass, ih hbody, shields_cons]

/-- The closing quote is read as such unless the text in front of it shields it. -/
theorem isQuotedRun_iff {body : List Char} (h : '"' ∉ body) :
    IsQuotedRun ("\"" ++ String.ofList body ++ "\"") ↔ shields false body = false := by
  have hlist : ("\"" ++ String.ofList body ++ "\"").toList = '"' :: (body ++ ['"']) := by simp
  rw [IsQuotedRun, hlist, List.head?_cons, List.tail_cons, afterQuote_append_quote h]
  cases shields false body <;> simp [afterQuote]

/-- The runs of `LIKE` are closed for every phrase, and for a string or a pattern exactly if it
ends, without its double quotes, in an even number of backslashes. -/
theorem renderComparison_like_isQuotedRun_iff (c : Column) (nested : Clause → Rendered)
    (text : String) :
    (∃ run, (renderComparison .standard nested ⟨c, .like, .literal (.phrase text)⟩).outcome =
        .ok (c.name ++ ":" ++ run) ∧ IsQuotedRun run) ∧
    (∃ run, (renderComparison .standard nested ⟨c, .like, .literal (.string text)⟩).outcome =
        .ok (c.name ++ ":" ++ run) ∧
      (IsQuotedRun run ↔ Even (backslashes (withoutQuotes text.toList)))) ∧
    (∃ run, (renderComparison .standard nested ⟨c, .like, .literal (.pattern ⟨text⟩)⟩).outcome =
        .ok (c.name ++ ":~" ++ run) ∧
      (IsQuotedRun run ↔ Even (backslashes (withoutQuotes text.toList)))) := by
  have hquotes : '"' ∉ withoutQuotes text.toList := by simp [withoutQuotes]
  refine ⟨⟨quotePhrase text, rfl, ?_⟩, ⟨"\"" ++ escape text ++ "\"", ?_, ?_⟩,
    ⟨"\"" ++ String.ofList (withoutQuotes text.toList) ++ "\"", ?_, ?_⟩⟩
  · obtain ⟨hbody, hshields⟩ := quotable_phraseBody text.toList
    exact (isQuotedRun_iff hbody).mpr hshields
  · have htext : c.name ++ ":" ++ ("\"" ++ escape text ++ "\"") =
        c.name ++ ":\"" ++ escape text ++ "\"" := by
      simp [← String.toList_inj]
    rw [htext]
    rfl
  · rw [← shields_eq_false_iff, ← shields_flatMap_escapeChar]
    exact isQuotedRun_iff (quote_not_mem_escapeChars text.toList)
  · have htext : c.name ++ ":~" ++
        ("\"" ++ String.ofList (withoutQuotes text.toList) ++ "\"") =
        c.name ++ ":~\"" ++ String.ofList (withoutQuotes text.toList) ++ "\"" := by
      simp [← String.toList_inj]
    rw [htext]
    rfl
  · rw [← shields_eq_false_iff]
    exact isQuotedRun_iff hquotes

/-- A backslash at the end of a string, and one that stood in front of a double quote of a
pattern, shield the closing quote. -/
theorem not_isQuotedRun_like :
    (renderComparison .standard (fun _ => .fail .noFilterTable)
        ⟨⟨"products", "name", .search⟩, .like, .literal (.string "a\\")⟩).outcome =
      .ok ("name" ++ ":" ++ "\"a\\\"") ∧
    Pattern.parse "a\\\"" = .ok ⟨"a\\\""⟩ ∧
    (renderComparison .standard (fun _ => .fail .noFilterTable)
        ⟨⟨"products", "name", .search⟩, .like, .literal (.pattern ⟨"a\\\""⟩)⟩).outcome =
      .ok ("name" ++ ":~" ++ "\"a\\\"") ∧
    ¬IsQuotedRun "\"a\\\"" := by
  refine ⟨rfl, ?_, rfl, by decide⟩
  decide +kernel

end HybridQuery
