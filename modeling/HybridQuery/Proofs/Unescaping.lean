import HybridQuery.Proofs.Escaping

/-!
# Undoing the escape

The backslashes that `escape` puts in are told from those of the value by where they stand: the
value's own ones are in front of characters that are not reserved, of the backslashes put in, or
at the end. `unescape` leaves out each backslash that stands directly in front of a reserved
character and gives the value back, without its double quotes, which no escaped text has
(`unescape_escapeChars`).

So two values are escaped alike exactly if they differ in their double quotes only, and parts of a
value can be escaped one by one (`escape_roundtrip`).
-/

namespace HybridQuery

/-- The text without the backslashes that stand directly in front of a reserved character. -/
def unescape : List Char → List Char
  | [] => []
  | c :: rest =>
    if c = '\\' ∧ ∃ d ∈ rest.head?, d ∈ reserved then unescape rest else c :: unescape rest

theorem unescape_escaped {c : Char} (h : c ∈ reserved) (rest : List Char) :
    unescape ('\\' :: c :: rest) = c :: unescape rest := by
  have hc : c ≠ '\\' := ne_of_mem_of_not_mem h backslash_not_mem_reserved
  have hkept : unescape (c :: rest) = c :: unescape rest := if_neg fun hskip => hc hskip.1
  rw [← hkept]
  exact if_pos ⟨rfl, c, rfl, h⟩

/-- A character that no reserved one follows is kept. -/
theorem unescape_cons {c : Char} {rest : List Char} (h : ∀ d ∈ rest.head?, d ∉ reserved) :
    unescape (c :: rest) = c :: unescape rest :=
  if_neg fun ⟨_, d, hd, hreserved⟩ => h d hd hreserved

theorem head?_flatMap_escapeChar {text : List Char} :
    ∀ d ∈ (text.flatMap escapeChar).head?, d ∉ reserved := by
  cases text with
  | nil => simp
  | cons c rest => exact fun d hd => not_mem_reserved_of_head?_escapeChar hd

theorem unescape_flatMap_escapeChar (text : List Char) :
    unescape (text.flatMap escapeChar) = text := by
  induction text with
  | nil => rfl
  | cons c rest ih =>
    rw [List.flatMap_cons]
    by_cases hc : c ∈ reserved
    · rw [escapeChar, if_pos hc, List.cons_append, List.singleton_append, unescape_escaped hc, ih]
    · rw [escapeChar, if_neg hc, List.singleton_append, unescape_cons head?_flatMap_escapeChar, ih]

/-- What was escaped comes back without its double quotes. -/
theorem unescape_escapeChars (text : List Char) :
    unescape (escapeChars text) = withoutQuotes text :=
  unescape_flatMap_escapeChar _

/-- A reserved character stands directly behind a backslash. -/
theorem getLast?_of_flatMap_escapeChar {text before after : List Char} {c : Char}
    (h : text.flatMap escapeChar = before ++ c :: after) (hc : c ∈ reserved) :
    before.getLast? = some '\\' := by
  have hlast {d : Char} {others : List Char} (hothers : others.getLast? = some '\\') :
      (d :: others).getLast? = some '\\' := by
    rw [List.getLast?_cons, hothers]
    rfl
  induction text generalizing before with
  | nil => simp at h
  | cons d rest ih =>
    rw [List.flatMap_cons] at h
    by_cases hd : d ∈ reserved
    · rw [escapeChar, if_pos hd, List.cons_append, List.singleton_append] at h
      rcases List.cons_eq_append_iff.mp h with ⟨-, hcons⟩ | ⟨behind, rfl, hbehind⟩
      · obtain ⟨rfl, -⟩ := List.cons.inj hcons
        exact absurd hc backslash_not_mem_reserved
      · rcases List.cons_eq_append_iff.mp hbehind with ⟨rfl, -⟩ | ⟨others, rfl, hothers⟩
        · rfl
        · exact hlast (hlast (ih hothers))
    · rw [escapeChar, if_neg hd, List.singleton_append] at h
      rcases List.cons_eq_append_iff.mp h with ⟨-, hcons⟩ | ⟨others, rfl, hothers⟩
      · obtain ⟨rfl, -⟩ := List.cons.inj hcons
        exact absurd hc hd
      · exact hlast (ih hothers)

/-- Escaped texts have no double quotes, and a backslash directly in front of each reserved
character. Without these backslashes they are the values without double quotes. So values are
escaped alike exactly if they are the same without double quotes, and part by part. -/
theorem escape_roundtrip (a b : String) :
    '"' ∉ (escape a).toList ∧
    (∀ before c after, (escape a).toList = before ++ c :: after → c ∈ reserved →
      before.getLast? = some '\\') ∧
    unescape (escape a).toList = withoutQuotes a.toList ∧
    (escape a = escape b ↔ withoutQuotes a.toList = withoutQuotes b.toList) ∧
    escape (a ++ b) = escape a ++ escape b := by
  simp only [← String.toList_inj, toList_escape, String.toList_append]
  refine ⟨quote_not_mem_escapeChars _, fun _ _ _ => getLast?_of_flatMap_escapeChar,
    unescape_escapeChars _, ⟨fun h => ?_, fun h => ?_⟩, escapeChars_append _ _⟩
  · rw [← unescape_escapeChars, h, unescape_escapeChars]
  · rw [escapeChars, h, escapeChars]

/-- Backslashes in front of a reserved character, of a double quote and at the end. -/
theorem escape_roundtrip_backslashes :
    (escape "\\\\:\\\"x\\").toList = "\\\\\\".toList ++ ':' :: "\\x\\".toList ∧
    "\\\\\\".toList.getLast? = some '\\' ∧
    unescape (escape "\\\\:\\\"x\\").toList = "\\\\:\\x\\".toList ∧
    escape "\\\\:\\\"x\\" = escape "\\\\\":\\x\\" := by
  obtain ⟨-, hreserved, hundo, heq, -⟩ :=
    escape_roundtrip "\\\\:\\\"x\\" "\\\\\":\\x\\"
  have hshape : (escape "\\\\:\\\"x\\").toList =
      "\\\\\\".toList ++ ':' :: "\\x\\".toList := by
    decide
  exact ⟨hshape, hreserved _ ':' _ hshape (by decide), hundo.trans (by decide),
    heq.mpr (by decide)⟩

end HybridQuery
