import HybridQuery.Search.Escape
import Mathlib.Algebra.Group.Nat.Even
import Mathlib.Data.List.Induction
import Mathlib.Tactic.Common

/-!
# When an escaped value is only text

The search engine reads a query from left to right, and a backslash makes the character after it
plain: that character is *shielded* (`shield`). What is left of the reserved characters is read as
syntax (`active`), and a text whose last backslash is not used up shields whatever is written next
(`shields`). A text is `Inert` when it has neither.

`escape` puts a backslash in front of each reserved character and copies the backslashes of the
value. In the query a copied backslash may meet an added one and shield it, so a reserved
character comes out as syntax exactly if an odd number of backslashes stands in front of it in the
value (`active_flatMap_escapeChar`). The end of the value is no different: behind an odd number of
backslashes it shields the next character (`inert_escape_iff`). A value without backslashes is
always inert (`inert_escape`).
-/

namespace HybridQuery

/-! ## Reading -/

/-- Whether the character after `c` is shielded, when `c` itself is or is not. -/
def shield (shielded : Bool) (c : Char) : Bool :=
  !shielded && decide (c = '\\')

/-- Whether a text shields the character that is written after it. -/
def shields (shielded : Bool) (text : List Char) : Bool :=
  text.foldl shield shielded

/-- The characters of a text that are read as syntax. -/
def active (shielded : Bool) : List Char → List Char
  | [] => []
  | c :: rest =>
    if c ∈ reserved ∧ shielded = false then c :: active (shield shielded c) rest
    else active (shield shielded c) rest

/-- Nothing in the text is read as syntax, nor does it change how what follows is read. -/
structure Inert (text : List Char) : Prop where
  active_eq_nil : active false text = []
  shields_eq_false : shields false text = false

@[simp] theorem shields_cons (shielded : Bool) (c : Char) (rest : List Char) :
    shields shielded (c :: rest) = shields (shield shielded c) rest := rfl

theorem backslash_not_mem_reserved : '\\' ∉ reserved := by decide

theorem shield_of_mem_reserved (shielded : Bool) {c : Char} (h : c ∈ reserved) :
    shield shielded c = false := by
  have hc : c ≠ '\\' := ne_of_mem_of_not_mem h backslash_not_mem_reserved
  simp [shield, hc]

/-! ## Runs of backslashes -/

/-- The number of backslashes that a text ends with. -/
def backslashes (text : List Char) : Nat :=
  (text.reverse.takeWhile (· = '\\')).length

theorem backslashes_append_singleton (text : List Char) (c : Char) :
    backslashes (text ++ [c]) = if c = '\\' then backslashes text + 1 else 0 := by
  by_cases hc : c = '\\' <;> simp [backslashes, hc]

/-- Of two backslashes in a row the first one shields the second. -/
theorem shields_eq_false_iff (text : List Char) :
    shields false text = false ↔ Even (backslashes text) := by
  induction text using List.reverseRecOn with
  | nil => simp [shields, backslashes]
  | append_singleton text c ih =>
    have hstep : shields false (text ++ [c]) = shield (shields false text) c := by
      simp [shields]
    rw [hstep, backslashes_append_singleton]
    by_cases hc : c = '\\'
    · rw [if_pos hc, Nat.even_add_one, ← ih]
      simp [shield, hc]
    · simp [shield, hc]

theorem shields_of_not_mem {text : List Char} (h : '\\' ∉ text) : shields false text = false := by
  induction text with
  | nil => rfl
  | cons c rest ih =>
    obtain ⟨hc, hrest⟩ := not_or.mp (List.mem_cons.not.mp h)
    rw [shields_cons, shield, decide_eq_false (Ne.symm hc), Bool.and_false]
    exact ih hrest

/-! ## Escaped texts -/

/-- An escaped string has no double quotes. -/
theorem quote_not_mem_escapeChars (text : List Char) : '"' ∉ escapeChars text := by
  intro hmem
  rw [escapeChars, List.mem_flatMap] at hmem
  obtain ⟨c, hc, hmem⟩ := hmem
  have hquote : c ≠ '"' := by simpa using (List.mem_filter.mp hc).2
  unfold escapeChar at hmem
  split_ifs at hmem
  · simp [Ne.symm hquote] at hmem
  · simp [Ne.symm hquote] at hmem

/-- An escaped character is reserved only behind the backslash that escapes it. -/
theorem not_mem_reserved_of_head?_escapeChar {c d : Char} {rest : List Char}
    (h : d ∈ (escapeChar c ++ rest).head?) : d ∉ reserved := by
  unfold escapeChar at h
  split_ifs at h with hc
  · cases h
    exact backslash_not_mem_reserved
  · cases h
    exact hc

/-- An escaped character leaves what follows as shielded as the character itself does. -/
theorem shields_escapeChar_append (shielded : Bool) (c : Char) (rest : List Char) :
    shields shielded (escapeChar c ++ rest) = shields (shield shielded c) rest := by
  unfold escapeChar
  split_ifs with h
  · rw [List.cons_append, List.singleton_append, shields_cons, shields_cons,
      shield_of_mem_reserved _ h, shield_of_mem_reserved _ h]
  · rfl

/-- A reserved character is syntax if the backslash in front of it is shielded. -/
theorem active_escapeChar_append (shielded : Bool) (c : Char) (rest : List Char) :
    active shielded (escapeChar c ++ rest) =
      (if c ∈ reserved ∧ shielded = true then [c] else []) ++ active (shield shielded c) rest := by
  unfold escapeChar
  by_cases h : c ∈ reserved
  · have hc : c ≠ '\\' := ne_of_mem_of_not_mem h backslash_not_mem_reserved
    cases shielded <;> simp [active, shield, backslash_not_mem_reserved, h, hc]
  · simp [active, h]

theorem shields_flatMap_escapeChar (text : List Char) :
    ∀ shielded, shields shielded (text.flatMap escapeChar) = shields shielded text := by
  induction text with
  | nil => intro shielded; rfl
  | cons c rest ih =>
    intro shielded
    rw [List.flatMap_cons, shields_escapeChar_append, ih, shields_cons]

/-- The characters that come out as syntax are the reserved ones that the text itself shields. -/
theorem active_flatMap_escapeChar (text : List Char) :
    ∀ shielded, active shielded (text.flatMap escapeChar) = [] ↔
      ∀ before c after, text = before ++ c :: after → c ∈ reserved →
        shields shielded before = false := by
  induction text with
  | nil => simp [active]
  | cons d rest ih =>
    intro shielded
    rw [List.flatMap_cons, active_escapeChar_append, List.append_eq_nil_iff, ih]
    constructor
    · rintro ⟨hd, hrest⟩ before c after heq hc
      rcases List.cons_eq_append_iff.mp heq with ⟨rfl, hcons⟩ | ⟨before', rfl, hrest'⟩
      · obtain ⟨rfl, -⟩ := List.cons.inj hcons
        simpa [hc, shields] using hd
      · exact hrest before' c after hrest' hc
    · intro h
      refine ⟨?_, fun before c after heq hc => h (d :: before) c after (by rw [heq]; rfl) hc⟩
      have hd := h [] d rest rfl
      split_ifs with hreserved
      · exact absurd (hd hreserved.1) (by simp [shields, hreserved.2])
      · rfl

/-- Without backslashes a value is only text. -/
theorem inert_escape {value : String} (h : '\\' ∉ value.toList) :
    Inert (escape value).toList := by
  have hquotes : '\\' ∉ withoutQuotes value.toList := fun hmem => h (List.mem_filter.mp hmem).1
  rw [toList_escape, escapeChars]
  constructor
  · refine (active_flatMap_escapeChar _ false).mpr fun before c after heq _ => ?_
    rw [heq] at hquotes
    exact shields_of_not_mem fun hmem => hquotes (List.mem_append_left _ hmem)
  · rw [shields_flatMap_escapeChar]
    exact shields_of_not_mem hquotes

/-- An escaped value is only text exactly if no reserved character of it, and not its end, stands
behind an odd number of backslashes. Double quotes do not count, for they are left out. -/
theorem inert_escape_iff (value : String) : Inert (escape value).toList ↔
    (∀ before c after, withoutQuotes value.toList = before ++ c :: after → c ∈ reserved →
      Even (backslashes before)) ∧ Even (backslashes (withoutQuotes value.toList)) := by
  have hactive := active_flatMap_escapeChar (withoutQuotes value.toList) false
  have hshields := shields_flatMap_escapeChar (withoutQuotes value.toList) false
  simp only [shields_eq_false_iff] at hactive
  rw [toList_escape, escapeChars, ← shields_eq_false_iff, ← hactive, ← hshields]
  exact ⟨fun h => ⟨h.1, h.2⟩, fun h => ⟨h.1, h.2⟩⟩

/-- A backslash frees the reserved character behind it, and one at the end shields what is written
next. -/
theorem not_inert_escape : active false (escape "\\:").toList = [':'] ∧
    shields false (escape "a\\").toList = true := by
  decide +kernel

end HybridQuery
