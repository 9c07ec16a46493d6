import HybridQuery.Number.Shortest
import Mathlib.Algebra.Group.Nat.Defs
import Mathlib.Tactic.Common

/-!
# What a floating point number stands for

A `Binary64` that is not a NaN stands for an infinity or for a real number. Every finite one is a
whole number of units of `2 ^ -1074` (`Binary64.units`), so what it stands for is told by an
integer (`Binary64.quantity?`).

Numbers compare equal exactly if they stand for the same (`Binary64.same_iff`). The magnitudes of
one exponent all lie below those of the next, so bits that differ stand for different numbers, but
for the sign of zero.
-/

namespace HybridQuery

/-- What a number that is not a NaN stands for. -/
inductive Quantity where
  | infinite (negative : Bool)
  /-- A real number, counted in units of `2 ^ -1074`. -/
  | finite (units : Int)
  deriving DecidableEq

namespace Binary64

/-- The absolute value of a finite number, counted in units of `2 ^ -1074`. -/
def magnitude (x : Binary64) : Nat :=
  x.significand * 2 ^ (x.power + 1074).toNat

/-- A finite number, counted in units of `2 ^ -1074`. -/
def units (x : Binary64) : Int :=
  if x.negative then -(x.magnitude : Int) else x.magnitude

/-- What a number stands for, if it is not a NaN. -/
def quantity? (x : Binary64) : Option Quantity :=
  if x.isNaN then none
  else some (if x.isFinite then .finite x.units else .infinite x.negative)

variable {x y : Binary64}

/-! ## Fields -/

theorem fractionField_lt (x : Binary64) : x.fractionField < 2 ^ 52 :=
  Nat.mod_lt _ (Nat.two_pow_pos 52)

theorem toNat_bits (x : Binary64) : x.bits.toNat =
    (if x.negative then 2 ^ 63 else 0) + x.exponentField * 2 ^ 52 + x.fractionField := by
  have hbits := x.bits.toNat_lt
  have hpow (n : Nat) : twoPow n = 2 ^ n := rfl
  simp only [negative, exponentField, fractionField, hpow, decide_eq_true_eq]
  split_ifs <;> omega

/-- Bits are made of their three fields. -/
theorem eq_of_fields (hsign : x.negative = y.negative)
    (hexponent : x.exponentField = y.exponentField)
    (hfraction : x.fractionField = y.fractionField) : x = y := by
  obtain ⟨bits⟩ := x
  obtain ⟨others⟩ := y
  have hx := toNat_bits ⟨bits⟩
  rw [hsign, hexponent, hfraction, ← toNat_bits ⟨others⟩] at hx
  exact congrArg Binary64.mk (UInt64.toNat_inj.mp hx)

/-! ## Magnitudes -/

theorem magnitude_eq (x : Binary64) : x.magnitude = x.significand * 2 ^ (x.exponentField - 1) := by
  have hpower : (x.power + 1074).toNat = x.exponentField - 1 := by
    unfold power
    split_ifs with h <;> omega
  rw [magnitude, hpower]

theorem magnitude_lt (x : Binary64) : x.magnitude < 2 ^ (52 + x.exponentField) := by
  have hfraction := x.fractionField_lt
  rw [magnitude_eq, significand]
  split_ifs with h
  · simpa [h] using hfraction
  · have hsignificand : twoPow 52 + x.fractionField < 2 ^ 53 := by
      have hpow : twoPow 52 = 2 ^ 52 := rfl
      omega
    have hexponent : 52 + x.exponentField = 53 + (x.exponentField - 1) := by omega
    rw [hexponent, Nat.pow_add]
    exact Nat.mul_lt_mul_of_pos_right hsignificand (Nat.two_pow_pos _)

theorem le_magnitude (h : x.exponentField ≠ 0) : 2 ^ (51 + x.exponentField) ≤ x.magnitude := by
  have hexponent : 51 + x.exponentField = 52 + (x.exponentField - 1) := by omega
  rw [magnitude_eq, significand, if_neg h, hexponent, Nat.pow_add]
  exact Nat.mul_le_mul_right _ (Nat.le_add_right _ _)

/-- A greater exponent makes a greater magnitude, whatever the fractions are. -/
theorem magnitude_lt_of_exponentField_lt (h : x.exponentField < y.exponentField) :
    x.magnitude < y.magnitude :=
  calc x.magnitude < 2 ^ (52 + x.exponentField) := x.magnitude_lt
    _ ≤ 2 ^ (51 + y.exponentField) := Nat.pow_le_pow_right Nat.two_pos (by omega)
    _ ≤ y.magnitude := le_magnitude (by omega)

theorem fields_eq_of_magnitude_eq (h : x.magnitude = y.magnitude) :
    x.exponentField = y.exponentField ∧ x.fractionField = y.fractionField := by
  have hexponent : x.exponentField = y.exponentField := by
    rcases Nat.lt_trichotomy x.exponentField y.exponentField with hlt | heq | hgt
    · exact absurd h (Nat.ne_of_lt (magnitude_lt_of_exponentField_lt hlt))
    · exact heq
    · exact absurd h (Nat.ne_of_gt (magnitude_lt_of_exponentField_lt hgt))
  refine ⟨hexponent, ?_⟩
  rw [magnitude_eq, magnitude_eq, hexponent] at h
  have hsignificand := Nat.eq_of_mul_eq_mul_right (Nat.two_pow_pos _) h
  rw [significand, significand, hexponent] at hsignificand
  split_ifs at hsignificand
  · exact hsignificand
  · exact Nat.add_left_cancel hsignificand

theorem magnitude_eq_zero_iff : x.magnitude = 0 ↔ x.isZero = true := by
  rw [isZero, Bool.and_eq_true, decide_eq_true_eq, decide_eq_true_eq]
  constructor
  · intro h
    have hexponent : x.exponentField = 0 := by
      by_contra hne
      exact absurd (le_magnitude hne) (by rw [h]; exact Nat.not_le_of_lt (Nat.two_pow_pos _))
    rw [magnitude_eq, significand, if_pos hexponent, hexponent] at h
    exact ⟨hexponent, by simpa using h⟩
  · rintro ⟨hexponent, hfraction⟩
    rw [magnitude_eq, significand, if_pos hexponent, hfraction, Nat.zero_mul]

/-! ## Equal numbers -/

/-- Finite numbers are told apart by what they stand for, but for the two zeros. -/
theorem units_eq_iff : x.units = y.units ↔ x = y ∨ x.isZero = true ∧ y.isZero = true := by
  constructor
  · intro h
    have hmagnitude : x.magnitude = y.magnitude := by
      unfold units at h
      split_ifs at h <;> omega
    obtain ⟨hexponent, hfraction⟩ := fields_eq_of_magnitude_eq hmagnitude
    by_cases hsign : x.negative = y.negative
    · exact .inl (eq_of_fields hsign hexponent hfraction)
    · -- only zero is its own opposite
      have hzero : x.magnitude = 0 := by
        unfold units at h
        split_ifs at h with hx hy hy
        · exact absurd (hx.trans hy.symm) hsign
        · omega
        · omega
        · exact absurd (Bool.eq_iff_iff.mpr (iff_of_false hx hy)) hsign
      exact .inr ⟨magnitude_eq_zero_iff.mp hzero, magnitude_eq_zero_iff.mp (hmagnitude ▸ hzero)⟩
  · rintro (rfl | ⟨hx, hy⟩)
    · rfl
    · simp [units, magnitude_eq_zero_iff.mpr hx, magnitude_eq_zero_iff.mpr hy]

/-- Numbers that are neither finite nor a NaN differ in their sign only. -/
theorem eq_of_infinite (hx : x.isNaN = false) (hy : y.isNaN = false) (hx' : x.isFinite = false)
    (hy' : y.isFinite = false) (hsign : x.negative = y.negative) : x = y := by
  simp only [isNaN, isFinite, Bool.and_eq_false_iff, decide_eq_false_iff_not, not_not] at *
  exact eq_of_fields hsign (by omega) (by omega)

theorem isFinite_of_isZero (h : x.isZero = true) : x.isFinite = true := by
  simp only [isZero, isFinite, Bool.and_eq_true, decide_eq_true_eq] at *
  omega

theorem quantity?_of_isFinite (h : x.isFinite = true) : x.quantity? = some (.finite x.units) := by
  have hnan : x.isNaN = false := by
    simp only [isNaN, isFinite, Bool.and_eq_false_iff, decide_eq_false_iff_not,
      decide_eq_true_eq] at *
    exact .inl h
  simp [quantity?, hnan, h]

theorem quantity?_of_infinite (hnan : x.isNaN = false) (h : x.isFinite = false) :
    x.quantity? = some (.infinite x.negative) := by
  simp [quantity?, hnan, h]

/-- Numbers are equal exactly if they stand for the same infinity or the same real number. A NaN
stands for nothing and equals nothing. -/
theorem same_iff : x.same y = true ↔ ∃ q, x.quantity? = some q ∧ y.quantity? = some q := by
  by_cases hnan : x.isNaN = true ∨ y.isNaN = true
  · rcases hnan with h | h <;> simp [same, quantity?, h]
  obtain ⟨hx, hy⟩ : x.isNaN = false ∧ y.isNaN = false := by simpa using hnan
  have hsame : x.same y = true ↔ x = y ∨ x.isZero = true ∧ y.isZero = true := by
    simp [same, hx, hy]
  rw [hsame]
  cases hx' : x.isFinite with
  | true =>
    rw [quantity?_of_isFinite hx']
    cases hy' : y.isFinite with
    | true =>
      rw [quantity?_of_isFinite hy', ← units_eq_iff, eq_comm]
      simp
    | false =>
      have hne : x ≠ y := fun h => by simp [h, hy'] at hx'
      have hzero : ¬y.isZero = true := fun h => by simp [isFinite_of_isZero h] at hy'
      simp [quantity?_of_infinite hy hy', hne, hzero]
  | false =>
    have hzero : ¬x.isZero = true := fun h => by simp [isFinite_of_isZero h] at hx'
    rw [quantity?_of_infinite hx hx']
    cases hy' : y.isFinite with
    | true =>
      have hne : x ≠ y := fun h => by simp [h, hy'] at hx'
      simp [quantity?_of_isFinite hy', hne, hzero]
    | false =>
      have hsign : x = y ↔ y.negative = x.negative :=
        ⟨fun h => by rw [h], fun h => eq_of_infinite hx hy hx' hy' h.symm⟩
      simp [quantity?_of_infinite hy hy', hsign, hzero]

end Binary64

end HybridQuery
