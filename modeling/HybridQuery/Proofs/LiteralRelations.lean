import HybridQuery.Proofs.BoundValues

/-!
# Clauses with related literals

`Clause.LiftRel r` holds of clauses of one shape, with the same columns, operators and compiled
searches, whose literals are related by `r` place by place: the ones that columns are compared with,
alone or in lists, and the ones that stand by themselves. The relation is symmetric and transitive
as `r` is. A clause is related to itself exactly if each of its literals is
(`Clause.liftRel_self_iff`).
-/

namespace HybridQuery

/-! ## Lists -/

section Lists

variable {α β : Type} {r : α → α → Prop}

theorem map_eq_map_of_forall₂ {f : α → β} {as bs : List α}
    (h : List.Forall₂ (fun a b => f a = f b) as bs) : as.map f = bs.map f := by
  rw [← List.forall₂_eq_eq_eq, List.forall₂_map_left_iff, List.forall₂_map_right_iff]
  exact h

theorem forall₂_symm (hr : ∀ a b, r a b → r b a) {as bs : List α} (h : List.Forall₂ r as bs) :
    List.Forall₂ r bs as :=
  (h.imp fun a b hab => hr a b hab).flip

theorem forall₂_trans {as bs cs : List α}
    (hr : ∀ a ∈ as, ∀ b c, r a b → r b c → r a c)
    (hab : List.Forall₂ r as bs) (hbc : List.Forall₂ r bs cs) : List.Forall₂ r as cs := by
  induction hab generalizing cs with
  | nil => exact hbc
  | cons hfirst _ ih =>
    obtain ⟨hhead, htail⟩ := List.forall_mem_cons.mp hr
    cases hbc with
    | cons hnext hrest => exact .cons (hhead _ _ hfirst hnext) (ih htail hrest)

end Lists

/-! ## Literals of a clause -/

/-- The literals of a clause that are not in one of its children. -/
def Clause.ownLiterals : Clause → List Literal
  | .comparison c => c.operand.literals
  | .literal value => [value]
  | _ => []

/-- The literals in a clause, at any depth. -/
def Clause.allLiterals (clause : Clause) : List Literal :=
  clause.nodes.flatMap ownLiterals

theorem Clause.allLiterals_group (combinator : Combinator) (children : List Clause) :
    (group combinator children).allLiterals = children.flatMap allLiterals := by
  rw [allLiterals, nodes_group, List.flatMap_cons, List.flatMap_assoc]
  rfl

/-! ## Related clauses -/

/-- The same column, or literals that are related place by place. -/
inductive Operand.LiftRel (r : Literal → Literal → Prop) : Operand → Operand → Prop
  | literal {a b : Literal} (h : r a b) : LiftRel r (.literal a) (.literal b)
  | column (c : Column) : LiftRel r (.column c) (.column c)
  | list {as bs : List Literal} (h : List.Forall₂ r as bs) : LiftRel r (.list as) (.list bs)

/-- Clauses of one shape whose literals are related place by place. -/
inductive Clause.LiftRel (r : Literal → Literal → Prop) : Clause → Clause → Prop
  | comparison (column : Column) (operator : Operator) {x y : Operand} (h : x.LiftRel r y) :
    LiftRel r (.comparison ⟨column, operator, x⟩) (.comparison ⟨column, operator, y⟩)
  | group (combinator : Combinator) {as bs : List Clause} (h : List.Forall₂ (LiftRel r) as bs) :
    LiftRel r (.group combinator as) (.group combinator bs)
  | literal {a b : Literal} (h : r a b) : LiftRel r (.literal a) (.literal b)
  | column (c : Column) : LiftRel r (.column c) (.column c)
  | compiled (p : Predicate) : LiftRel r (.compiled p) (.compiled p)

variable {r s : Literal → Literal → Prop}

namespace Operand

variable {x y z : Operand}

theorem LiftRel.mono (hrs : ∀ a b, r a b → s a b) (h : x.LiftRel r y) : x.LiftRel s y := by
  cases h with
  | literal h => exact .literal (hrs _ _ h)
  | column c => exact .column c
  | list h => exact .list (h.imp hrs)

theorem LiftRel.symm (hr : ∀ a b, r a b → r b a) (h : x.LiftRel r y) : y.LiftRel r x := by
  cases h with
  | literal h => exact .literal (hr _ _ h)
  | column c => exact .column c
  | list h => exact .list (forall₂_symm hr h)

theorem LiftRel.trans (hr : ∀ a b c, r a b → r b c → r a c) (hxy : x.LiftRel r y)
    (hyz : y.LiftRel r z) : x.LiftRel r z := by
  cases hxy with
  | literal h =>
    cases hyz with
    | literal h' => exact .literal (hr _ _ _ h h')
  | column c => exact hyz
  | list h =>
    cases hyz with
    | list h' => exact .list (forall₂_trans (fun a _ => hr a) h h')

theorem liftRel_self_iff : x.LiftRel r x ↔ ∀ l ∈ x.literals, r l l := by
  cases x with
  | literal value =>
    rw [literals, List.forall_mem_singleton]
    exact ⟨fun | .literal h => h, .literal⟩
  | column c => simp [literals, LiftRel.column]
  | list values =>
    rw [literals, ← List.forall₂_same]
    exact ⟨fun | .list h => h, .list⟩

end Operand

namespace Clause

variable {a b c : Clause}

/-- What holds of leaves that are related, and of groups when it holds of their children in pairs,
holds of all clauses that are related. -/
@[elab_as_elim]
theorem LiftRel.tree {motive : Clause → Clause → Prop}
    (comparison : ∀ column operator x y, Operand.LiftRel r x y →
      motive (.comparison ⟨column, operator, x⟩) (.comparison ⟨column, operator, y⟩))
    (group : ∀ combinator as bs, List.Forall₂ motive as bs →
      motive (.group combinator as) (.group combinator bs))
    (literal : ∀ l m, r l m → motive (.literal l) (.literal m))
    (column : ∀ c, motive (.column c) (.column c))
    (compiled : ∀ p, motive (.compiled p) (.compiled p)) (h : a.LiftRel r b) : motive a b := by
  induction a generalizing b with
  | comparison c =>
    cases h with
    | comparison c op h => exact comparison c op _ _ h
  | group combinator as ih =>
    cases h with
    | group _ h => exact group combinator as _ (forall₂_imp_of_mem h fun a ha b hab => ih a ha hab)
  | literal l =>
    cases h with
    | literal h => exact literal _ _ h
  | column c =>
    cases h
    exact column c
  | compiled p =>
    cases h
    exact compiled p

theorem LiftRel.mono (hrs : ∀ l m, r l m → s l m) (h : a.LiftRel r b) : a.LiftRel s b := by
  refine h.tree ?comparison ?group ?literal .column .compiled
  case comparison => exact fun c op x y h => .comparison c op (h.mono hrs)
  case group => exact fun combinator as bs h => .group combinator h
  case literal => exact fun l m h => .literal (hrs l m h)

theorem LiftRel.symm (hr : ∀ l m, r l m → r m l) (h : a.LiftRel r b) : b.LiftRel r a := by
  refine h.tree ?comparison ?group ?literal .column .compiled
  case comparison => exact fun c op x y h => .comparison c op (h.symm hr)
  case group => exact fun combinator as bs h => .group combinator h.flip
  case literal => exact fun l m h => .literal (hr l m h)

theorem LiftRel.trans (hr : ∀ l m n, r l m → r m n → r l n) (hab : a.LiftRel r b)
    (hbc : b.LiftRel r c) : a.LiftRel r c := by
  induction a generalizing b c with
  | comparison _ =>
    cases hab with
    | comparison column op h =>
      cases hbc with
      | comparison _ _ h' => exact .comparison column op (h.trans hr h')
  | group combinator as ih =>
    cases hab with
    | group _ h =>
      cases hbc with
      | group _ h' =>
        exact .group combinator (forall₂_trans (fun a ha b c hab hbc => ih a ha hab hbc) h h')
  | literal _ =>
    cases hab with
    | literal h =>
      cases hbc with
      | literal h' => exact .literal (hr _ _ _ h h')
  | column _ =>
    cases hab
    exact hbc
  | compiled _ =>
    cases hab
    exact hbc

/-- A clause is related to itself if its literals are. -/
theorem liftRel_self_iff : a.LiftRel r a ↔ ∀ l ∈ a.allLiterals, r l l := by
  induction a with
  | comparison c =>
    have hown : allLiterals (.comparison c) = c.operand.literals := List.append_nil _
    rw [hown, ← Operand.liftRel_self_iff]
    exact ⟨fun | .comparison _ _ h => h, .comparison c.column c.operator⟩
  | group combinator children ih =>
    rw [allLiterals_group, List.forall_mem_flatMap, ← forall₂_congr ih, ← List.forall₂_same]
    exact ⟨fun | .group _ h => h, .group combinator⟩
  | literal l =>
    have hown : allLiterals (.literal l) = [l] := rfl
    rw [hown, List.forall_mem_singleton]
    exact ⟨fun | .literal h => h, .literal⟩
  | column c => simp [allLiterals, nodes, ownLiterals, LiftRel.column]
  | compiled p => simp [allLiterals, nodes, ownLiterals, LiftRel.compiled]

end Clause

end HybridQuery
