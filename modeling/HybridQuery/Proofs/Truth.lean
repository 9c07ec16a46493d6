import HybridQuery.Proofs.Tree

/-!
# What clauses mean

A comparison with a missing value is neither true nor false, so truth has three values.
`Clause.truth` evaluates a clause when its comparisons have been evaluated, a group by the
conjunction or the disjunction of its children. Neither the order of the clauses of a conjunction
nor how they are nested makes a difference (`Clause.allTrue_perm`, `Clause.allTrue_conjunctsAll`).
-/

namespace HybridQuery

/-- The three truth values of SQL. -/
inductive Truth where
  | yes
  | unknown
  | no
  deriving DecidableEq, Repr

namespace Truth

protected def and : Truth → Truth → Truth
  | .no, _ => .no
  | _, .no => .no
  | .yes, .yes => .yes
  | _, _ => .unknown

protected def or : Truth → Truth → Truth
  | .yes, _ => .yes
  | _, .yes => .yes
  | .no, .no => .no
  | _, _ => .unknown

theorem and_assoc (a b c : Truth) : (a.and b).and c = a.and (b.and c) := by
  cases a <;> cases b <;> cases c <;> rfl

theorem and_comm (a b : Truth) : a.and b = b.and a := by
  cases a <;> cases b <;> rfl

@[simp] theorem yes_and (a : Truth) : yes.and a = a := by
  cases a <;> rfl

@[simp] theorem and_yes (a : Truth) : a.and yes = a := by
  cases a <;> rfl

end Truth

namespace Clause

mutual

/-- The truth of a clause whose comparisons have these values. What else stands by itself is
neither true nor false. -/
def truth (test : Comparison → Truth) : Clause → Truth
  | .comparison c => test c
  | .group .and children => allTrue test children
  | .group .or children => someTrue test children
  | .literal _ => .unknown
  | .column _ => .unknown
  | .compiled _ => .unknown

/-- The conjunction of clauses. -/
def allTrue (test : Comparison → Truth) : List Clause → Truth
  | [] => .yes
  | clause :: rest => (truth test clause).and (allTrue test rest)

/-- The disjunction of clauses. -/
def someTrue (test : Comparison → Truth) : List Clause → Truth
  | [] => .no
  | clause :: rest => (truth test clause).or (someTrue test rest)

end

variable (test : Comparison → Truth)

@[simp] theorem allTrue_cons (clause : Clause) (rest : List Clause) :
    allTrue test (clause :: rest) = (truth test clause).and (allTrue test rest) := rfl

theorem allTrue_append (others : List Clause) : ∀ clauses : List Clause,
    allTrue test (clauses ++ others) = (allTrue test clauses).and (allTrue test others)
  | [] => (Truth.yes_and _).symm
  | clause :: rest => by
    rw [List.cons_append, allTrue_cons, allTrue_append others rest, allTrue_cons, Truth.and_assoc]

/-- The order of a conjunction makes no difference. -/
theorem allTrue_perm {clauses others : List Clause} (h : clauses.Perm others) :
    allTrue test clauses = allTrue test others := by
  induction h with
  | nil => rfl
  | cons clause _ ih => rw [allTrue_cons, allTrue_cons, ih]
  | swap a b rest =>
    simp only [allTrue_cons, ← Truth.and_assoc]
    rw [Truth.and_comm (truth test a)]
  | trans _ _ ih ih' => rw [ih, ih']

/-- A clause means the conjunction of its conjuncts. -/
theorem allTrue_conjuncts (clause : Clause) :
    allTrue test clause.conjuncts = truth test clause := by
  induction clause with
  | group combinator children ih =>
    cases combinator with
    | or => exact Truth.and_yes _
    | and =>
      rw [conjuncts_and, truth]
      induction children with
      | nil => rfl
      | cons first rest ihrest =>
        rw [conjunctsAll_cons, allTrue_append, ih first List.mem_cons_self, allTrue_cons,
          ihrest fun c hc => ih c (List.mem_cons_of_mem _ hc)]
  | comparison c => exact Truth.and_yes _
  | literal value => rfl
  | column c => rfl
  | compiled p => rfl

theorem allTrue_conjunctsAll : ∀ clauses : List Clause,
    allTrue test (conjunctsAll clauses) = allTrue test clauses
  | [] => rfl
  | clause :: rest => by
    rw [conjunctsAll_cons, allTrue_append, allTrue_conjuncts, allTrue_conjunctsAll rest,
      allTrue_cons]

end Clause

end HybridQuery
