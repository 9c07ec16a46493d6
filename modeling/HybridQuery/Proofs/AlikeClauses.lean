import HybridQuery.Proofs.Logged
import HybridQuery.Proofs.Tree
import HybridQuery.Relational.ClauseCondition
import HybridQuery.Relational.Statement

/-!
# Clauses that differ in their values

Two clauses are alike when they have one shape, the same columns, operators and combinators, and
literals of the same kinds (`Clause.Related` with `Comparison.Alike`). A condition shows the values
of literals only as parameters, so the conditions of two clauses that are alike have the same SQL
(`Clause.sql_eq_of_alike`), although one of the clauses may have a condition and the other not:
dates may have no text.

What two runs of a function have in common is told by `Alongside`: if both end in values, the
values are related.
-/

namespace HybridQuery

/-! ## Two computations -/

/-- Whenever both computations end in values, the values are related. -/
def Alongside {α β : Type} (r : α → β → Prop) (x : Except Error α) (y : Except Error β) : Prop :=
  ∀ a b, x = .ok a → y = .ok b → r a b

namespace Alongside

variable {α β γ δ : Type} {r : α → β → Prop} {s : γ → δ → Prop}

theorem ok {a : α} {b : β} (h : r a b) : Alongside r (.ok a) (.ok b) := by
  rintro _ _ ⟨⟩ ⟨⟩
  exact h

theorem error_left (e : Error) (y : Except Error β) : Alongside r (.error e) y := by
  rintro _ _ ⟨⟩

theorem error_right (x : Except Error α) (e : Error) : Alongside r x (.error e) := by
  rintro _ _ - ⟨⟩

protected theorem bind {x : Except Error α} {y : Except Error β} {f : α → Except Error γ}
    {g : β → Except Error δ} (h : Alongside r x y) (hfg : ∀ a b, r a b → Alongside s (f a) (g b)) :
    Alongside s (x >>= f) (y >>= g) := by
  intro c d hc hd
  obtain ⟨a, hx, hf⟩ := bind_eq_ok.mp hc
  obtain ⟨b, hy, hg⟩ := bind_eq_ok.mp hd
  exact hfg a b (h a b hx hy) c d hf hg

protected theorem map {x : Except Error α} {y : Except Error β} {f : α → γ} {g : β → δ}
    (h : Alongside r x y) (hfg : ∀ a b, r a b → s (f a) (g b)) :
    Alongside s (f <$> x) (g <$> y) := by
  cases x with
  | error e => exact error_left e _
  | ok a =>
    cases y with
    | error e => exact error_right _ e
    | ok b => exact ok (hfg a b (h a b rfl rfl))

end Alongside

/-! ## Clauses that are alike -/

/-- Literals of one kind each, or the same column. -/
inductive Operand.Alike : Operand → Operand → Prop
  | literal {a b : Literal} (h : a.kind = b.kind) : Alike (.literal a) (.literal b)
  | column (c : Column) : Alike (.column c) (.column c)
  | list {as bs : List Literal} (h : List.Forall₂ (fun a b => a.kind = b.kind) as bs) :
    Alike (.list as) (.list bs)

/-- Comparisons that differ at most in the contents of literals. -/
structure Comparison.Alike (a b : Comparison) : Prop where
  column : a.column = b.column
  operator : a.operator = b.operator
  operand : a.operand.Alike b.operand

/-- Clauses of one shape, with related comparisons in the same places. -/
inductive Clause.Related (r : Comparison → Comparison → Prop) : Clause → Clause → Prop
  | comparison {a b : Comparison} (h : r a b) : Related r (.comparison a) (.comparison b)
  | group (combinator : Combinator) {as bs : List Clause} (h : List.Forall₂ (Related r) as bs) :
    Related r (.group combinator as) (.group combinator bs)
  | literal (value : Literal) : Related r (.literal value) (.literal value)
  | column (c : Column) : Related r (.column c) (.column c)
  | compiled (p : Predicate) : Related r (.compiled p) (.compiled p)

/-- What holds of the leaves that are related, and of groups when it holds of their children in
pairs, holds of all related clauses. -/
@[elab_as_elim]
theorem Clause.Related.tree {r : Comparison → Comparison → Prop}
    {motive : Clause → Clause → Prop}
    (comparison : ∀ a b, r a b → motive (.comparison a) (.comparison b))
    (group : ∀ combinator as bs, List.Forall₂ (Related r) as bs → List.Forall₂ motive as bs →
      motive (.group combinator as) (.group combinator bs))
    (literal : ∀ value, motive (.literal value) (.literal value))
    (column : ∀ c, motive (.column c) (.column c))
    (compiled : ∀ p, motive (.compiled p) (.compiled p)) {a b : Clause} (h : Related r a b) :
    motive a b := by
  induction a generalizing b with
  | comparison c =>
    cases h with
    | comparison h => exact comparison _ _ h
  | group combinator as ih =>
    cases h with
    | group _ h =>
      exact group combinator as _ h (forall₂_imp_of_mem h fun a ha b hab => ih a ha hab)
  | literal value =>
    cases h
    exact literal value
  | column c =>
    cases h
    exact column c
  | compiled p =>
    cases h
    exact compiled p

/-- Clauses that differ at most in the contents of literals. -/
def Clause.Alike : Clause → Clause → Prop :=
  Clause.Related Comparison.Alike

/-! ## Statements without their values -/

namespace Statement

/-- The pieces of a statement with the values left out. -/
def skeleton (s : Statement) : List (Option String) :=
  s.map fun
    | .text sql => some sql
    | .parameter _ => none

@[simp] theorem skeleton_nil : skeleton [] = [] := rfl

@[simp] theorem skeleton_text (sql : String) (s : Statement) :
    skeleton (.text sql :: s) = some sql :: s.skeleton := rfl

@[simp] theorem skeleton_parameter (value : Value) (s : Statement) :
    skeleton (.parameter value :: s) = none :: s.skeleton := rfl

@[simp] theorem skeleton_append (s t : Statement) :
    skeleton (s ++ t) = s.skeleton ++ t.skeleton :=
  List.map_append

/-- The SQL depends on where the parameters are, and not on their values. -/
theorem sqlFrom_congr : ∀ {s t : Statement} (n : Nat), s.skeleton = t.skeleton →
    sqlFrom n s = sqlFrom n t
  | [], [], _, _ => rfl
  | .text sql :: s, .text sql' :: t, n, h => by
    obtain ⟨hsql, hrest⟩ := List.cons.inj h
    rw [sqlFrom, sqlFrom, Option.some.inj hsql, sqlFrom_congr n hrest]
  | .parameter _ :: s, .parameter _ :: t, n, h => by
    rw [sqlFrom, sqlFrom, sqlFrom_congr (n + 1) (List.cons.inj h).2]
  | .text _ :: _, .parameter _ :: _, _, h => by cases (List.cons.inj h).1
  | .parameter _ :: _, .text _ :: _, _, h => by cases (List.cons.inj h).1

theorem skeleton_separated_parameters (separator : String) : ∀ {values others : List Value},
    values.length = others.length →
      skeleton (separated separator (values.map fun value => [.parameter value])) =
        skeleton (separated separator (others.map fun value => [.parameter value]))
  | [], [], _ => rfl
  | [_], [_], _ => rfl
  | _ :: v :: values, _ :: w :: others, h => by
    have hlength : (v :: values).length = (w :: others).length := Nat.succ.inj h
    have ih := skeleton_separated_parameters separator hlength
    simp only [List.map_cons, separated] at ih ⊢
    simp [ih]

end Statement

/-! ## Conditions that are alike -/

/-- Conditions that are written in the same way but for their values, also next to others. -/
structure Condition.Alike (c d : Condition) : Prop where
  skeleton : c.statement.skeleton = d.statement.skeleton
  wrapped : c.isWrapped = d.isWrapped
  wrappedLeft : ∀ combinator, c.isWrappedLeft combinator = d.isWrappedLeft combinator

namespace Condition.Alike

theorem refl (c : Condition) : c.Alike c :=
  ⟨rfl, rfl, fun _ => rfl⟩

theorem skeleton_wrap (wrapped : Bool) {s t : Statement} (h : s.skeleton = t.skeleton) :
    (wrap wrapped s).skeleton = (wrap wrapped t).skeleton := by
  cases wrapped <;> simp [wrap, h]

theorem join (combinator : Combinator) {c c' d d' : Condition} (hc : c.Alike c')
    (hd : d.Alike d') : Condition.Alike (.join combinator c d) (.join combinator c' d') where
  skeleton := by
    simp only [statement, Statement.skeleton_append, Statement.skeleton_text, hc.wrappedLeft,
      hd.wrapped, skeleton_wrap _ hc.skeleton, skeleton_wrap _ hd.skeleton]
  wrapped := rfl
  wrappedLeft _ := rfl

theorem foldl (combinator : Combinator) {conditions others : List Condition}
    (h : List.Forall₂ Condition.Alike conditions others) :
    ∀ {first first' : Condition}, first.Alike first' →
      Condition.Alike (conditions.foldl (.join combinator) first)
        (others.foldl (.join combinator) first') := by
  induction h with
  | nil => exact id
  | cons hnext _ ih => exact fun hfirst => ih (hfirst.join combinator hnext)

theorem joinAll (combinator : Combinator) {conditions others : List Condition}
    (h : List.Forall₂ Condition.Alike conditions others) :
    Condition.Alike (Condition.joinAll combinator conditions)
      (Condition.joinAll combinator others) := by
  cases h with
  | nil => exact refl _
  | cons hfirst hrest => exact hfirst.foldl combinator hrest

end Condition.Alike

/-- Tests that are written in the same way but for their values. -/
structure Test.Alike (t u : Test) : Prop where
  skeleton : t.statement.skeleton = u.statement.skeleton
  wrapped : t.isWrapped = u.isWrapped

theorem Test.Alike.condition {t u : Test} (h : t.Alike u) :
    Condition.Alike (.test t) (.test u) :=
  ⟨h.skeleton, h.wrapped, fun _ => h.wrapped⟩

/-! ## Comparisons -/

namespace Operand.Alike

variable {x y : Operand}

theorem isNull_eq (h : x.Alike y) : x.isNull = y.isNull := by
  have hnull (l : Literal) : isNull (.literal l) = decide (l.kind = .null) := by
    cases l <;> rfl
  cases h with
  | literal h => rw [hnull, hnull, h]
  | column c => rfl
  | list h => rfl

theorem term (h : x.Alike y) :
    Alongside (fun t u => t.statement.skeleton = u.statement.skeleton) x.term y.term := by
  cases h with
  | @literal a b h =>
    have hvalue : Alongside (fun _ _ => True) a.value b.value := fun _ _ _ _ => trivial
    exact hvalue.map fun _ _ _ => rfl
  | column c => exact .ok rfl
  | list h => exact .error_left _ _

end Operand.Alike

namespace Comparison

variable {column : Column} {operator : Operator} {x y : Operand}

theorem alongside_against (comparator : Comparator) (h : x.Alike y) :
    Alongside Test.Alike (against ⟨column, operator, x⟩ comparator)
      (against ⟨column, operator, y⟩ comparator) :=
  h.term.map fun t u htu => ⟨by simp [Test.statement, htu], by cases comparator <;> rfl⟩

theorem alongside_likeTest :
    Alongside Test.Alike (likeTest ⟨column, operator, x⟩) (likeTest ⟨column, operator, y⟩) := by
  unfold likeTest
  split
  case h_1 =>
    split
    case h_1 => exact .ok ⟨rfl, rfl⟩
    case h_2 => exact .error_right _ _
  case h_2 => exact .error_left _ _

theorem alongside_betweenTest :
    Alongside Test.Alike (betweenTest ⟨column, operator, x⟩)
      (betweenTest ⟨column, operator, y⟩) := by
  have hvalue (a b : Literal) : Alongside (fun _ _ => True) a.value b.value :=
    fun _ _ _ _ => trivial
  unfold betweenTest
  split
  case h_1 low high _ =>
    split
    case h_1 low' high' _ =>
      exact (hvalue low low').bind fun _ _ _ => (hvalue high high').bind fun _ _ _ => .ok ⟨rfl, rfl⟩
    all_goals exact .error_right _ _
  all_goals exact .error_left _ _

theorem alongside_inTest (h : x.Alike y) :
    Alongside Test.Alike (inTest ⟨column, operator, x⟩) (inTest ⟨column, operator, y⟩) := by
  cases h with
  | literal h => exact .error_left _ _
  | column c => exact .error_left _ _
  | @list as bs h =>
    have hvalues : Alongside (fun vs ws => vs.length = ws.length) (as.mapM Literal.value)
        (bs.mapM Literal.value) := by
      intro vs ws hvs hws
      rw [Logged.length_of_each (Logged.each_of_mapM hvs),
        Logged.length_of_each (Logged.each_of_mapM hws), h.length_eq]
    refine hvalues.map fun vs ws hlength => ⟨?_, rfl⟩
    cases vs with
    | nil =>
      obtain rfl : ws = [] := List.length_eq_zero_iff.mp hlength.symm
      rfl
    | cons v vs =>
      cases ws with
      | nil => cases hlength
      | cons w ws =>
        simp only [Test.statement, Statement.skeleton_text, List.cons_append,
          Statement.skeleton_append]
        rw [Statement.skeleton_separated_parameters ", " hlength]

theorem alongside_nullable (comparator : Comparator) (nullTest : Test) (h : x.Alike y) :
    Alongside Test.Alike
      (if x.isNull then .ok nullTest else against ⟨column, operator, x⟩ comparator)
      (if y.isNull then .ok nullTest else against ⟨column, operator, y⟩ comparator) := by
  rw [h.isNull_eq]
  split_ifs
  · exact .ok ⟨rfl, rfl⟩
  · exact alongside_against comparator h

/-- Comparisons that are alike have tests that are alike, if both have one. -/
theorem Alike.test {a b : Comparison} (h : a.Alike b) : Alongside Test.Alike a.test b.test := by
  obtain ⟨column, operator, x⟩ := a
  obtain ⟨_, _, y⟩ := b
  obtain ⟨rfl, rfl, hoperand⟩ := h
  cases operator with
  | eq | ne | isNot => exact alongside_nullable _ _ hoperand
  | gt | gte | lt | lte => exact alongside_against _ hoperand
  | like => exact alongside_likeTest
  | between => exact alongside_betweenTest
  | isIn => exact alongside_inTest hoperand
  | _ => exact .error_left _ _

end Comparison

/-! ## Clauses -/

namespace Clause

theorem alongside_conditions_of_forall₂ {clauses others : List Clause}
    (h : List.Forall₂ (fun a b => Alongside Condition.Alike a.condition b.condition)
      clauses others) : Alongside (List.Forall₂ Condition.Alike) (conditions clauses)
        (conditions others) := by
  induction h with
  | nil => exact .ok .nil
  | cons hfirst _ ih =>
    exact hfirst.bind fun _ _ hc => ih.bind fun _ _ hrest => .ok (.cons hc hrest)

/-- Clauses that are alike have conditions that are alike, if both have one. -/
theorem Alike.condition {a b : Clause} (h : a.Alike b) :
    Alongside Condition.Alike a.condition b.condition := by
  refine h.tree ?comparison ?group ?_ ?_ ?_
  case comparison => exact fun a b h => h.test.map fun _ _ => Test.Alike.condition
  case group =>
    intro combinator as bs _ ih
    exact (alongside_conditions_of_forall₂ ih).map fun _ _ => Condition.Alike.joinAll combinator
  all_goals exact fun _ => .error_left _ _

theorem Alike.conditions {clauses others : List Clause} (h : List.Forall₂ Alike clauses others) :
    Alongside (List.Forall₂ Condition.Alike) (conditions clauses) (conditions others) :=
  alongside_conditions_of_forall₂ (h.imp fun _ _ => Alike.condition)

/-- Clauses that are alike have the same SQL. -/
theorem sql_eq_of_alike {a b : Clause} {c d : Condition} (h : a.Alike b)
    (hc : a.condition = .ok c) (hd : b.condition = .ok d) : c.statement.sql = d.statement.sql :=
  Statement.sqlFrom_congr 1 (h.condition c d hc hd).skeleton

end Clause

end HybridQuery
