import HybridQuery.Proofs.LiteralRelations
import HybridQuery.Proofs.Quantities

/-!
# When two clauses are equal

Clauses are equal if they have one shape, the same columns, operators and compiled searches, and
literals that agree (`Clause.same_iff`). Numbers agree if they stand for the same, dates if they
name the same instant, and all other literals only with themselves (`Literal.Agrees`).

Agreement is symmetric and transitive, and the only literal that does not agree with itself is a
NaN, so the same holds of clauses (`Clause.same_partial_equivalence`): a clause is equal to itself
unless a NaN is in it, however deep.
-/

namespace HybridQuery

/-! ## Literals -/

namespace Literal

/-- Numbers that stand for the same, dates of the same instant, or the same literal of any other
kind. -/
inductive Agrees : Literal → Literal → Prop
  | float {x y : Binary64} {q : Quantity} (hx : x.quantity? = some q) (hy : y.quantity? = some q) :
    Agrees (.float x) (.float y)
  | dateTime {s t : DateTime} (h : s.instant = t.instant) : Agrees (.dateTime s) (.dateTime t)
  | self {l : Literal} (hfloat : l.kind ≠ .float) (hdate : l.kind ≠ .dateTime) : Agrees l l

theorem same_iff {l m : Literal} : l.same m = true ↔ l.Agrees m := by
  constructor
  · intro h
    unfold same at h
    split at h
    case h_3 x y =>
      obtain ⟨q, hx, hy⟩ := Binary64.same_iff.mp h
      exact .float hx hy
    case h_10 s t => exact .dateTime (of_decide_eq_true h)
    case h_5 => exact .self (by decide) (by decide)
    case h_11 => cases h
    all_goals
      obtain rfl := of_decide_eq_true h
      exact .self (by simp [kind]) (by simp [kind])
  · intro h
    cases h with
    | float hx hy => exact Binary64.same_iff.mpr ⟨_, hx, hy⟩
    | dateTime h => exact decide_eq_true h
    | self hfloat hdate => cases l <;> simp_all [same, kind]

namespace Agrees

variable {l m n : Literal}

theorem symm (h : l.Agrees m) : m.Agrees l := by
  cases h with
  | float hx hy => exact .float hy hx
  | dateTime h => exact .dateTime h.symm
  | self hfloat hdate => exact .self hfloat hdate

theorem trans (hlm : l.Agrees m) (hmn : m.Agrees n) : l.Agrees n := by
  cases hlm with
  | float hx hy =>
    cases hmn with
    | float hy' hz => exact .float hx (hy.symm.trans hy' ▸ hz)
    | self hfloat _ => exact absurd rfl hfloat
  | dateTime h =>
    cases hmn with
    | dateTime h' => exact .dateTime (h.trans h')
    | self _ hdate => exact absurd rfl hdate
  | self _ _ => exact hmn

/-- Only a NaN does not agree with itself. -/
theorem self_iff : l.Agrees l ↔ ∀ x, l = .float x → x.isNaN = false := by
  cases l with
  | float x =>
    have hquantity : (∃ q, x.quantity? = some q) ↔ x.isNaN = false := by
      cases h : x.isNaN <;> simp [Binary64.quantity?, h]
    rw [← same_iff, same, Binary64.same_iff]
    simp [hquantity]
  | dateTime t => exact iff_of_true (.dateTime rfl) (by simp)
  | string _ | integer _ | boolean _ | null | pattern _ | raw _ | phrase _ | table _ =>
    exact iff_of_true (.self (by simp [kind]) (by simp [kind])) (by simp)

end Agrees

theorem sameAll_iff : ∀ {ls ms : List Literal},
    sameAll ls ms = true ↔ List.Forall₂ Agrees ls ms
  | [], [] => by simp [sameAll]
  | [], m :: ms => by simp [sameAll]
  | l :: ls, [] => by simp [sameAll]
  | l :: ls, m :: ms => by
    rw [sameAll, Bool.and_eq_true, same_iff, sameAll_iff, List.forall₂_cons]

end Literal

/-! ## Clauses -/

theorem Operand.same_iff {x y : Operand} : x.same y = true ↔ x.LiftRel Literal.Agrees y := by
  constructor
  · intro h
    unfold same at h
    split at h
    · exact .literal (Literal.same_iff.mp h)
    · obtain rfl := of_decide_eq_true h
      exact .column _
    · exact .list (Literal.sameAll_iff.mp h)
    · cases h
  · intro h
    cases h with
    | literal h => exact Literal.same_iff.mpr h
    | column c => exact decide_eq_true rfl
    | list h => exact Literal.sameAll_iff.mpr h

namespace Clause

theorem sameAll_iff : ∀ {as bs : List Clause},
    sameAll as bs = true ↔ List.Forall₂ (fun a b => same a b = true) as bs
  | [], [] => by simp [sameAll]
  | [], b :: bs => by simp [sameAll]
  | a :: as, [] => by simp [sameAll]
  | a :: as, b :: bs => by rw [sameAll, Bool.and_eq_true, sameAll_iff, List.forall₂_cons]

/-- Equality of clauses is agreement of their literals. -/
theorem same_iff {a b : Clause} : a.same b = true ↔ a.LiftRel Literal.Agrees b := by
  constructor
  · intro h
    induction a generalizing b with
    | comparison c =>
      cases b with
      | comparison d =>
        obtain ⟨column, op, x⟩ := c
        obtain ⟨column', op', y⟩ := d
        simp only [same, Comparison.same, Bool.and_eq_true, decide_eq_true_eq] at h
        obtain ⟨⟨rfl, rfl⟩, h⟩ := h
        exact .comparison column op (Operand.same_iff.mp h)
      | _ => cases h
    | group combinator as ih =>
      cases b with
      | group other bs =>
        rw [same, Bool.and_eq_true, decide_eq_true_eq, sameAll_iff] at h
        obtain ⟨rfl, h⟩ := h
        exact .group combinator (forall₂_imp_of_mem h fun a ha b hab => ih a ha hab)
      | _ => cases h
    | literal l =>
      cases b with
      | literal m => exact .literal (Literal.same_iff.mp h)
      | _ => cases h
    | column c =>
      cases b with
      | column d =>
        obtain rfl := of_decide_eq_true h
        exact .column c
      | _ => cases h
    | compiled p =>
      cases b with
      | compiled q =>
        obtain rfl := of_decide_eq_true h
        exact .compiled p
      | _ => cases h
  · intro h
    refine h.tree ?comparison ?group ?literal ?column ?compiled
    case comparison =>
      intro column op x y h
      simp [same, Comparison.same, Operand.same_iff.mpr h]
    case group =>
      intro combinator as bs h
      rw [same, sameAll_iff.mpr h, decide_eq_true rfl, Bool.and_self]
    case literal => exact fun l m h => Literal.same_iff.mpr h
    case column => exact fun c => decide_eq_true rfl
    case compiled => exact fun p => decide_eq_true rfl

/-- The equality of clauses is that of their shapes and contents. It is symmetric and transitive,
and a clause is equal to itself exactly if no NaN is in it. -/
theorem same_partial_equivalence (a b c : Clause) :
    (a.same b = true ↔ a.LiftRel Literal.Agrees b) ∧
    (a.same b = true → b.same a = true) ∧
    (a.same b = true → b.same c = true → a.same c = true) ∧
    (a.same a = true ↔ ∀ x, Literal.float x ∈ a.allLiterals → x.isNaN = false) := by
  refine ⟨same_iff, ?symm, ?trans, ?self⟩
  case symm =>
    rw [same_iff, same_iff]
    exact fun h => h.symm fun _ _ => .symm
  case trans =>
    rw [same_iff, same_iff, same_iff]
    exact fun hab hbc => hab.trans (fun _ _ _ => .trans) hbc
  case self =>
    rw [same_iff, liftRel_self_iff]
    constructor
    · exact fun h x hx => Literal.Agrees.self_iff.mp (h _ hx) x rfl
    · intro h l hl
      refine Literal.Agrees.self_iff.mpr ?_
      rintro x rfl
      exact h x hl

/-- Zeros of both signs in a list and one instant at two offsets, and a NaN deep in a clause. -/
theorem same_partial_equivalence_zeros :
    ∃ a b c : Clause,
      a = .any [Column.isIn ⟨"products", "price", .search⟩ [.float ⟨0⟩, .null],
        .literal (.dateTime { year := 2024, month := 2, day := 29, hour := 23, minute := 30 })] ∧
      b = .any [Column.isIn ⟨"products", "price", .search⟩ [.float ⟨0x8000000000000000⟩, .null],
        .literal (.dateTime
          { year := 2024, month := 3, day := 1, hour := 1
            offsetHours := 1, offsetMinutes := 30 })] ∧
      c = .all [.any [Column.isIn ⟨"products", "price", .search⟩
        [.integer 5, .float ⟨0x7ff8000000000000⟩]]] ∧
      a.same b = true ∧ b.same a = true ∧ a.same a = true ∧ c.same c = false := by
  obtain ⟨a, b, ha, hb, hab⟩ : ∃ a b : Clause,
      a = .any [Column.isIn ⟨"products", "price", .search⟩ [.float ⟨0⟩, .null],
        .literal (.dateTime { year := 2024, month := 2, day := 29, hour := 23, minute := 30 })] ∧
      b = .any [Column.isIn ⟨"products", "price", .search⟩ [.float ⟨0x8000000000000000⟩, .null],
        .literal (.dateTime
          { year := 2024, month := 3, day := 1, hour := 1
            offsetHours := 1, offsetMinutes := 30 })] ∧ a.same b = true :=
    ⟨_, _, rfl, rfl, by decide +kernel⟩
  obtain ⟨-, hsymm, htrans, -⟩ := same_partial_equivalence a b a
  refine ⟨a, b, _, ha, hb, rfl, hab, hsymm hab, htrans hab (hsymm hab), ?_⟩
  refine Bool.eq_false_iff.mpr fun h => ?_
  have hnan := (same_partial_equivalence _ b b).2.2.2.mp h ⟨0x7ff8000000000000⟩
    (.tail _ (List.mem_singleton_self _))
  exact absurd hnan (by decide)

end Clause

end HybridQuery
