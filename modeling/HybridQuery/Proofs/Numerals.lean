import HybridQuery.DateTime
import Mathlib.Data.List.Basic
import Mathlib.Tactic.Common

/-!
# What numbers and dates are written with

A whole number, a finite floating point number and a date in the internet format are made of
digits and a few signs between them (`isNumeral`), whatever their values. So none of them holds a
character that means something in a search query, or stands for a placeholder.

A date has its text exactly if the internet format has room for it (`DateTime.HasRoom`).
-/

namespace HybridQuery

/-- A digit or one of the signs that stand between digits. -/
def isNumeral (c : Char) : Bool :=
  c.isDigit || ['-', '+', '.', ':', 'T', 'Z'].contains c

/-- The text is made of digits and signs. -/
def Numeral (text : List Char) : Prop :=
  ∀ c ∈ text, isNumeral c = true

namespace Numeral

@[simp] theorem nil : Numeral [] := by
  simp [Numeral]

@[simp] theorem cons_iff {c : Char} {text : List Char} :
    Numeral (c :: text) ↔ isNumeral c = true ∧ Numeral text :=
  List.forall_mem_cons

@[simp] theorem append_iff {s t : List Char} : Numeral (s ++ t) ↔ Numeral s ∧ Numeral t :=
  List.forall_mem_append

theorem of_subset {s t : List Char} (ht : Numeral t) (h : ∀ c ∈ s, c ∈ t) : Numeral s :=
  fun c hc => ht c (h c hc)

@[simp] theorem digitsOf (n : Nat) : Numeral (digitsOf n) := by
  intro c hc
  have hdigit : c.isDigit = true := Nat.isDigit_of_mem_toDigits (by decide) (by decide) hc
  rw [isNumeral, hdigit, Bool.true_or]

@[simp] theorem zeros (n : Nat) : Numeral (List.replicate n '0') := by
  intro c hc
  rw [List.eq_of_mem_replicate hc]
  rfl

theorem integerText (n : Int) : Numeral (integerText n).toList := by
  unfold HybridQuery.integerText
  split_ifs <;> simp [isNumeral]

/-! ## Floating point numbers -/

theorem positional (d : Decimal) : Numeral d.positional := by
  unfold Decimal.positional
  split_ifs
  · simp
  · -- the point stands between two parts of the padded digits
    extract_lets digits places padded whole
    have hpadded : Numeral padded := by simp [padded, digits]
    have htake : Numeral (padded.take whole) := hpadded.of_subset fun c => List.mem_of_mem_take
    have hdrop : Numeral (padded.drop whole) := hpadded.of_subset fun c => List.mem_of_mem_drop
    simp [htake, hdrop, isNumeral]

theorem float {x : Binary64} (h : x.isFinite = true) : Numeral x.text.toList := by
  have hnan : x.isNaN = false := by
    have hexponent : x.exponentField ≠ 2047 := of_decide_eq_true h
    simp [Binary64.isNaN, hexponent]
  have hmagnitude : Numeral (if x.isZero then ['0'] else x.shortest.positional) := by
    split_ifs
    · simp [isNumeral]
    · exact positional _
  simp only [Binary64.text, hnan, h, Bool.not_true, Bool.false_eq_true, if_false,
    String.toList_ofList]
  split_ifs with hnegative hzero hzero
  all_goals simp_all [isNumeral]

/-! ## Dates -/

theorem dropTrailing (c : Char) {text : List Char} (h : Numeral text) :
    Numeral (dropTrailing c text) :=
  h.of_subset fun _ => mem_of_mem_dropTrailing

@[simp] theorem padded (width n : Nat) : Numeral (DateTime.padded width n) := by
  simp [DateTime.padded]

theorem fraction (t : DateTime) : Numeral t.fraction := by
  unfold DateTime.fraction
  split_ifs
  · exact nil
  · exact cons_iff.mpr ⟨rfl, dropTrailing '0' (padded 9 _)⟩

theorem offset (t : DateTime) : Numeral t.offset := by
  unfold DateTime.offset
  split_ifs <;> simp [isNumeral]

theorem rfc3339 {t : DateTime} {text : String} (h : t.rfc3339 = .ok text) :
    Numeral text.toList := by
  unfold DateTime.rfc3339 at h
  split_ifs at h
  rw [← Except.ok.inj h]
  simp [isNumeral, fraction, offset]

end Numeral

/-- The internet format has room for the date: four digits of the year, less than a day of offset
and no seconds of it. -/
structure DateTime.HasRoom (t : DateTime) : Prop where
  year : 0 ≤ t.year ∧ t.year ≤ 9999
  offsetHours : t.offsetHours.natAbs ≤ 23
  offsetSeconds : t.offsetSeconds = 0

theorem DateTime.isOk_rfc3339_iff {t : DateTime} : (∃ text, t.rfc3339 = .ok text) ↔ t.HasRoom := by
  unfold rfc3339
  constructor
  · rintro ⟨text, h⟩
    split_ifs at h with hyear hhours hseconds
    exact ⟨by omega, by omega, by omega⟩
  · rintro ⟨hyear, hhours, hseconds⟩
    rw [if_neg (by omega), if_neg (by omega), if_neg (by omega)]
    exact ⟨_, rfl⟩

end HybridQuery
