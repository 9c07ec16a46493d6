import HybridQuery.Proofs.Compilation
import HybridQuery.Proofs.Numerals
import Mathlib.Algebra.GroupWithZero.Nat
import Mathlib.Data.List.TakeWhile

/-!
# Where the marks of a text come from

A mark stands in a rendered text for a placeholder that was noted, or it was in one of the texts
that the clauses brought along: a name, a string, a phrase. A rendering `Accounts` for its marks
when both kinds add up to their number. It also says exactly when it succeeds, and it never fails
for want of a single table, which is found out later.

Steps that account for their marks do so one after another (`Accounts.bind`), and over a list
(`Accounts.each`).
-/

namespace HybridQuery

variable {α β γ : Type}

/-! ## Counting -/

/-- The marks of a text. -/
def marksOf (text : String) : Nat :=
  marks text.toList

/-- The marks of several texts. -/
def marksAll (texts : List String) : Nat :=
  (texts.map marksOf).sum

@[simp] theorem marksOf_append (s t : String) : marksOf (s ++ t) = marksOf s + marksOf t := by
  rw [marksOf, String.toList_append, marks_append]
  rfl

/-- A piece of syntax has no marks to add. -/
theorem marksOf_append_plain {piece : String} (h : marksOf piece = 0) (text : String) :
    marksOf (text ++ piece) = marksOf text := by
  rw [marksOf_append, h, Nat.add_zero]

theorem marksOf_plain_append {piece : String} (h : marksOf piece = 0) (text : String) :
    marksOf (piece ++ text) = marksOf text := by
  rw [marksOf_append, h, Nat.zero_add]

@[simp] theorem marksAll_nil : marksAll [] = 0 := rfl

@[simp] theorem marksAll_cons (text : String) (rest : List String) :
    marksAll (text :: rest) = marksOf text + marksAll rest := by
  rw [marksAll, List.map_cons, List.sum_cons]
  rfl

@[simp] theorem marksAll_append (texts others : List String) :
    marksAll (texts ++ others) = marksAll texts + marksAll others := by
  rw [marksAll, List.map_append, List.sum_append]
  rfl

theorem marksAll_eq_zero_iff {texts : List String} :
    marksAll texts = 0 ↔ ∀ text ∈ texts, mark ∉ text.toList := by
  induction texts with
  | nil => simp
  | cons text rest ih =>
    rw [marksAll_cons, Nat.add_eq_zero_iff, ih, List.forall_mem_cons]
    exact and_congr_left' List.count_eq_zero

/-- A separator without marks adds none. -/
theorem marksOf_intercalate {separator : String} (h : marksOf separator = 0) :
    ∀ texts : List String, marksOf (separator.intercalate texts) = marksAll texts
  | [] => rfl
  | [text] => by simp
  | text :: other :: rest => by
    rw [String.intercalate_cons_cons, marksOf_append, marksOf_append_plain h,
      marksOf_intercalate h (other :: rest)]
    exact (marksAll_cons text (other :: rest)).symm

/-! ## Marks of values -/

/-- Numbers and dates have no marks. -/
theorem marksOf_of_numeral {text : String} (h : Numeral text.toList) : marksOf text = 0 :=
  List.count_eq_zero.mpr fun hmark => absurd (h mark hmark) (by decide)

theorem marks_withoutQuotes (text : List Char) : marks (withoutQuotes text) = marks text :=
  List.count_filter (by decide)

theorem marksOf_escape (text : String) : marksOf (escape text) = marksOf text := by
  have hchar : ∀ c, marks (escapeChar c) = marks [c] := by
    intro c
    unfold escapeChar
    split_ifs
    · exact marks_cons_of_ne (by decide) [c]
    · rfl
  have hchars : ∀ chars : List Char, marks (chars.flatMap escapeChar) = marks chars := by
    intro chars
    induction chars with
    | nil => rfl
    | cons c rest ih => rw [List.flatMap_cons, marks_append, hchar, ih, ← marks_append]; rfl
  rw [marksOf, toList_escape, escapeChars, hchars, marks_withoutQuotes]
  rfl

theorem marks_dropTrailing {c : Char} (h : c ≠ mark) (text : List Char) :
    marks (dropTrailing c text) = marks text := by
  have hdropped : marks (text.reverse.takeWhile (· == c)) = 0 := by
    refine List.count_eq_zero.mpr fun hmark => h ?_
    have heq := List.mem_takeWhile_imp hmark
    exact (eq_of_beq heq).symm
  have hsplit := congrArg marks
    (List.takeWhile_append_dropWhile (p := (· == c)) (l := text.reverse))
  rw [marks_append, hdropped, Nat.zero_add] at hsplit
  rw [dropTrailing, marks, List.count_reverse]
  exact hsplit.trans List.count_reverse

theorem marksOf_quotePhrase (phrase : String) : marksOf (quotePhrase phrase) = marksOf phrase := by
  have hquote : marksOf "\"" = 0 := rfl
  rw [quotePhrase, marksOf_append_plain hquote, marksOf_plain_append hquote, marksOf,
    String.toList_ofList, phraseBody, marks_dropTrailing (by decide), marks_withoutQuotes]
  rfl

theorem marksOf_naturalText (n : Nat) : marksOf (naturalText n) = 0 :=
  marksOf_of_numeral (by simp [naturalText])

/-! ## Accounts -/

/-- The number of placeholders among notes. -/
def placeholders (log : List Note) : Nat :=
  (log.filterMap Note.column?).length

theorem placeholders_append (log others : List Note) :
    placeholders (log ++ others) = placeholders log + placeholders others := by
  rw [placeholders, List.filterMap_append, List.length_append]
  rfl

/-- The error says that there is no single table to search. -/
def Error.OfTables (e : Error) : Prop :=
  e = .noFilterTable ∨ ∃ tables, e = .ambiguousTable tables

/-- The rendering succeeds exactly if it is `valid`. The marks of the result are then the
placeholders it noted and the `own` ones that came with the texts. Otherwise it fails, and not
because of the tables. -/
inductive Accounts (count : α → Nat) (valid : Prop) (own : Nat) : Logged Note α → Prop
  | ok {log : List Note} {a : α} (hvalid : valid) (hcount : count a = placeholders log + own) :
    Accounts count valid own ⟨log, .ok a⟩
  | error {log : List Note} {e : Error} (hvalid : ¬valid) (herror : ¬e.OfTables) :
    Accounts count valid own ⟨log, .error e⟩

namespace Accounts

variable {count : α → Nat} {count' : β → Nat} {valid valid' : Prop} {own own' : Nat}

theorem congr {x : Logged Note α} (h : Accounts count valid own x) (hvalid : valid ↔ valid')
    (hown : own = own') : Accounts count valid' own' x := by
  subst hown
  rwa [← propext hvalid]

protected theorem done {a : α} (hvalid : valid) (h : count a = own) :
    Accounts count valid own (.lift (.ok a)) :=
  .ok hvalid (h.trans (Nat.zero_add own).symm)

protected theorem fail {e : Error} (hvalid : ¬valid) (h : ¬e.OfTables) :
    Accounts count valid own (.lift (.error e)) :=
  .error hvalid h

/-- If no text brings a mark along, none is in the result. -/
theorem mark_not_mem {texts : List String} {x : Except Error String} {text : String}
    (hx : Accounts marksOf valid (marksAll texts) (.lift x))
    (hmarks : ∀ t ∈ texts, mark ∉ t.toList) (h : x = .ok text) : mark ∉ text.toList := by
  rw [h, marksAll_eq_zero_iff.mpr hmarks] at hx
  cases hx with
  | ok hvalid hcount => exact List.count_eq_zero.mp hcount

/-- One step after another: what the second one has to account for includes the marks of the
first result. -/
protected theorem bind {x : Logged Note α} {f : α → Logged Note β}
    (hx : Accounts count valid own x)
    (hf : ∀ a, valid → Accounts count' valid' (count a + own') (f a)) :
    Accounts count' (valid ∧ valid') (own + own') (x >>= f) := by
  cases hx with
  | error hvalid herror => exact .error (fun h => hvalid h.1) herror
  | @ok log a hvalid hcount =>
    have hfa := hf a hvalid
    rw [Logged.bind_of_ok rfl]
    generalize f a = y at hfa
    cases hfa with
    | error hvalid' herror => exact .error (fun h => hvalid' h.2) herror
    | @ok others b hvalid' hcount' =>
      refine .ok ⟨hvalid, hvalid'⟩ ?_
      calc count' b = placeholders others + (placeholders log + own + own') := by
            rw [hcount', hcount]
        _ = placeholders (log ++ others) + (own + own') := by
            rw [placeholders_append]
            omega

/-- A result that is put into a text. -/
protected theorem map {x : Logged Note α} {f : α → β} {more : Nat}
    (hx : Accounts count valid own x) (hf : ∀ a, count' (f a) = count a + more) :
    Accounts count' valid (own + more) (x >>= fun a => pure (f a)) :=
  (hx.bind fun a _ => Accounts.done trivial (hf a)).congr (iff_of_eq (and_true valid)) rfl

/-- A note of a table makes no difference. -/
protected theorem table {name : String} {f : Unit → Logged Note α}
    (hf : Accounts count valid own (f ())) :
    Accounts count valid own (Logged.note (.table name) >>= f) := by
  rw [Logged.bind_of_ok rfl]
  generalize f () = y at hf
  cases hf with
  | ok hvalid hcount =>
    refine .ok hvalid ?_
    rw [hcount, placeholders_append]
    exact congrArg (· + own) (Nat.zero_add _).symm
  | error hvalid herror => exact .error hvalid herror

/-- Over a list each item accounts for its own marks. -/
protected theorem each {f : γ → Logged Note String} {valid : γ → Prop} {texts : γ → List String} :
    ∀ {items : List γ},
      (∀ c ∈ items, Accounts marksOf (valid c) (marksAll (texts c)) (f c)) →
      Accounts marksAll (∀ c ∈ items, valid c) (marksAll (items.flatMap texts))
        (Logged.each f items)
  | [], _ => (Accounts.done trivial rfl).congr (by simp) rfl
  | c :: rest, h => by
    obtain ⟨hc, hrest⟩ := List.forall_mem_cons.mp h
    have ih := Accounts.each hrest
    have hcons (text : String) : Accounts marksAll (∀ d ∈ rest, valid d)
        (marksOf text + marksAll (rest.flatMap texts))
        (Logged.each f rest >>= fun others => pure (text :: others)) := by
      refine (ih.map fun others => ?_).congr Iff.rfl (Nat.add_comm _ _)
      rw [marksAll_cons, Nat.add_comm]
    refine (hc.bind fun text _ => hcons text).congr List.forall_mem_cons.symm ?_
    rw [List.flatMap_cons, marksAll_append]

end Accounts

end HybridQuery
