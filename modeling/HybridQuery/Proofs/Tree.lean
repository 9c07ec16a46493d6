import HybridQuery.Clause
import Mathlib.Tactic.Common

/-!
# The tree of a clause

Clauses nest through lists, so a property of all clauses is shown for the leaves and for a group
whose children have it (`Clause.tree`). `Clause.nodes` are all clauses in a tree,
`Clause.comparisons` the comparisons of it from left to right, and `Clause.conjuncts` the clauses
that it is the conjunction of: conjunctions are taken apart as far as only conjunctions stand above
them, and nothing else is looked into.

Where a clause has several faults the leftmost one counts. `First` is the first of a list that has
a property, with what stands in front of it.
-/

namespace HybridQuery

/-! ## The first of a list -/

/-- The first of `as` with the property `p` is `a`, and `before` stands in front of it. -/
structure First {α : Type} (p : α → Prop) (before : List α) (a : α) (as : List α) : Prop where
  exists_eq : ∃ after, as = before ++ a :: after
  not_before : ∀ b ∈ before, ¬p b
  holds : p a

namespace First

variable {α : Type} {p : α → Prop} {a b : α} {as bs before : List α}

theorem mem (h : First p before a as) : a ∈ as := by
  obtain ⟨after, rfl⟩ := h.exists_eq
  exact List.mem_append_right _ List.mem_cons_self

theorem not_nil : ¬First p before a [] := by
  intro h
  exact List.not_mem_nil h.mem

/-- The first item is the one, or it is passed by. -/
theorem of_cons (h : First p before a (b :: as)) :
    (before = [] ∧ a = b ∧ p b) ∨ (¬p b ∧ ∃ rest, before = b :: rest ∧ First p rest a as) := by
  obtain ⟨⟨after, heq⟩, hbefore, ha⟩ := h
  cases before with
  | nil =>
    obtain ⟨rfl, rfl⟩ := List.cons.inj heq
    exact .inl ⟨rfl, rfl, ha⟩
  | cons first rest =>
    obtain ⟨rfl, rfl⟩ := List.cons.inj heq
    obtain ⟨hfirst, hrest⟩ := List.forall_mem_cons.mp hbefore
    exact .inr ⟨hfirst, rest, rfl, ⟨after, rfl⟩, hrest, ha⟩

theorem of_singleton (h : First p before a [b]) : before = [] ∧ a = b ∧ p b :=
  h.of_cons.resolve_right fun ⟨_, _, _, hrest⟩ => not_nil hrest

/-- Of two lists in a row it is in the one, or that one is passed by. -/
theorem of_append (h : First p before a (as ++ bs)) :
    First p before a as ∨
      ((∀ c ∈ as, ¬p c) ∧ ∃ rest, before = as ++ rest ∧ First p rest a bs) := by
  induction as generalizing before with
  | nil => exact .inr ⟨fun c hc => absurd hc List.not_mem_nil, before, rfl, h⟩
  | cons first rest ih =>
    rcases h.of_cons with ⟨rfl, rfl, hp⟩ | ⟨hfirst, passed, rfl, htail⟩
    · exact .inl ⟨⟨rest, rfl⟩, fun c hc => absurd hc List.not_mem_nil, hp⟩
    · rcases ih htail with ⟨⟨after, rfl⟩, hbefore, hp⟩ | ⟨hrest, others, rfl, hothers⟩
      · exact .inl ⟨⟨after, rfl⟩, List.forall_mem_cons.mpr ⟨hfirst, hbefore⟩, hp⟩
      · exact .inr ⟨List.forall_mem_cons.mpr ⟨hfirst, hrest⟩, others, rfl, hothers⟩

/-- If there is one at all there is a first one. -/
theorem exists_of_mem (ha : a ∈ as) (hp : p a) : ∃ before b, First p before b as := by
  classical
  have hfound : (as.find? fun c => decide (p c)).isSome :=
    List.find?_isSome.mpr ⟨a, ha, decide_eq_true hp⟩
  obtain ⟨b, hb⟩ := Option.isSome_iff_exists.mp hfound
  obtain ⟨hpb, before, after, heq, hbefore⟩ := List.find?_eq_some_iff_append.mp hb
  exact ⟨before, b, ⟨after, heq⟩, fun c hc => by simpa using hbefore c hc, of_decide_eq_true hpb⟩

end First

namespace Clause

/-- What holds of the leaves, and of a group when it holds of the children, holds of every
clause. -/
@[elab_as_elim, induction_eliminator]
theorem tree {motive : Clause → Prop} (comparison : ∀ c, motive (.comparison c))
    (group : ∀ combinator children, (∀ c ∈ children, motive c) →
      motive (.group combinator children))
    (literal : ∀ value, motive (.literal value)) (column : ∀ c, motive (.column c))
    (compiled : ∀ p, motive (.compiled p)) (clause : Clause) : motive clause := by
  refine @Clause.rec motive (fun children => ∀ c ∈ children, motive c) comparison group literal
    column compiled ?_ ?_ clause
  · intro c hc
    cases hc
  · intro first rest hfirst hrest c hc
    rcases List.mem_cons.mp hc with rfl | hc
    · exact hfirst
    · exact hrest c hc

/-! ## Nodes -/

mutual

/-- The clauses in a clause, itself and at any depth, from left to right. -/
def nodes : Clause → List Clause
  | .group combinator children => .group combinator children :: nodesAll children
  | clause => [clause]

def nodesAll : List Clause → List Clause
  | [] => []
  | clause :: rest => nodes clause ++ nodesAll rest

end

theorem nodesAll_eq : ∀ clauses : List Clause, nodesAll clauses = clauses.flatMap nodes
  | [] => rfl
  | clause :: rest => by
    rw [nodesAll, nodesAll_eq rest, List.flatMap_cons]

@[simp] theorem nodes_group (combinator : Combinator) (children : List Clause) :
    nodes (.group combinator children) =
      .group combinator children :: children.flatMap nodes := by
  rw [nodes, nodesAll_eq]

theorem self_mem_nodes (clause : Clause) : clause ∈ clause.nodes := by
  cases clause <;> simp [nodes]

/-- The nodes of a node are nodes of the clause. -/
theorem mem_nodes_trans {clause node other : Clause} (hnode : node ∈ clause.nodes)
    (hother : other ∈ node.nodes) : other ∈ clause.nodes := by
  induction clause with
  | comparison _ | literal _ | column _ | compiled _ =>
    obtain rfl := List.mem_singleton.mp hnode
    exact hother
  | group inner children ih =>
    rw [nodes_group, List.mem_cons, List.mem_flatMap] at hnode ⊢
    rcases hnode with rfl | ⟨child, hchild, hnode⟩
    · rwa [nodes_group, List.mem_cons, List.mem_flatMap] at hother
    · exact .inr ⟨child, hchild, ih child hchild hnode⟩

theorem mem_nodesAll_of_mem {clause : Clause} {clauses : List Clause} (h : clause ∈ clauses) :
    clause ∈ nodesAll clauses := by
  rw [nodesAll_eq]
  exact List.mem_flatMap.mpr ⟨clause, h, self_mem_nodes clause⟩

theorem mem_nodesAll_of_group {inner : Combinator} {children clauses : List Clause}
    {child : Clause} (hgroup : .group inner children ∈ nodesAll clauses)
    (hchild : child ∈ children) : child ∈ nodesAll clauses := by
  rw [nodesAll_eq, List.mem_flatMap] at hgroup ⊢
  obtain ⟨clause, hclause, hgroup⟩ := hgroup
  refine ⟨clause, hclause, mem_nodes_trans hgroup ?_⟩
  rw [nodes_group]
  exact List.mem_cons_of_mem _ (List.mem_flatMap.mpr ⟨child, hchild, self_mem_nodes child⟩)

/-! ## Comparisons -/

mutual

/-- The comparisons of a clause, at any depth, from left to right. -/
def comparisons : Clause → List Comparison
  | .comparison c => [c]
  | .group _ children => comparisonsAll children
  | .literal _ => []
  | .column _ => []
  | .compiled _ => []

def comparisonsAll : List Clause → List Comparison
  | [] => []
  | clause :: rest => comparisons clause ++ comparisonsAll rest

end

theorem comparisonsAll_eq : ∀ clauses : List Clause,
    comparisonsAll clauses = clauses.flatMap comparisons
  | [] => rfl
  | clause :: rest => by
    rw [comparisonsAll, comparisonsAll_eq rest, List.flatMap_cons]

@[simp] theorem comparisons_comparison (c : Comparison) : comparisons (.comparison c) = [c] := rfl

@[simp] theorem comparisons_group (combinator : Combinator) (children : List Clause) :
    comparisons (.group combinator children) = children.flatMap comparisons := by
  rw [comparisons, comparisonsAll_eq]

theorem mem_comparisons_of_mem_nodes {clause : Clause} {c : Comparison}
    (h : .comparison c ∈ clause.nodes) : c ∈ clause.comparisons := by
  induction clause with
  | comparison _ =>
    cases List.mem_singleton.mp h
    exact List.mem_singleton_self c
  | literal _ | column _ | compiled _ => cases List.mem_singleton.mp h
  | group inner children ih =>
    rw [nodes_group, List.mem_cons, List.mem_flatMap] at h
    obtain ⟨child, hchild, hc⟩ := h.resolve_left (by simp)
    rw [comparisons_group]
    exact List.mem_flatMap.mpr ⟨child, hchild, ih child hchild hc⟩

theorem mem_nodes_of_mem_comparisons {clause : Clause} {c : Comparison}
    (h : c ∈ clause.comparisons) : .comparison c ∈ clause.nodes := by
  induction clause with
  | comparison _ =>
    obtain rfl := List.mem_singleton.mp h
    exact List.mem_singleton_self _
  | literal _ | column _ | compiled _ => cases h
  | group inner children ih =>
    rw [comparisons_group, List.mem_flatMap] at h
    obtain ⟨child, hchild, hc⟩ := h
    rw [nodes_group]
    exact List.mem_cons_of_mem _ (List.mem_flatMap.mpr ⟨child, hchild, ih child hchild hc⟩)

theorem mem_comparisonsAll_iff {clauses : List Clause} {c : Comparison} :
    c ∈ comparisonsAll clauses ↔ .comparison c ∈ nodesAll clauses := by
  rw [comparisonsAll_eq, nodesAll_eq, List.mem_flatMap, List.mem_flatMap]
  exact exists_congr fun clause => and_congr_right fun _ =>
    ⟨mem_nodes_of_mem_comparisons, mem_comparisons_of_mem_nodes⟩

/-! ## Conjuncts -/

mutual

/-- The clauses that a clause is the conjunction of. -/
def conjuncts : Clause → List Clause
  | .group .and children => conjunctsAll children
  | clause => [clause]

def conjunctsAll : List Clause → List Clause
  | [] => []
  | clause :: rest => conjuncts clause ++ conjunctsAll rest

end

@[simp] theorem conjunctsAll_cons (clause : Clause) (rest : List Clause) :
    conjunctsAll (clause :: rest) = conjuncts clause ++ conjunctsAll rest := rfl

@[simp] theorem conjuncts_and (children : List Clause) :
    conjuncts (.group .and children) = conjunctsAll children := rfl

theorem comparisonsAll_append (clauses others : List Clause) :
    comparisonsAll (clauses ++ others) = comparisonsAll clauses ++ comparisonsAll others := by
  rw [comparisonsAll_eq, comparisonsAll_eq, comparisonsAll_eq, List.flatMap_append]

theorem comparisonsAll_conjunctsAll_of_forall {clauses : List Clause}
    (h : ∀ c ∈ clauses, comparisonsAll (conjuncts c) = comparisons c) :
    comparisonsAll (conjunctsAll clauses) = comparisonsAll clauses := by
  induction clauses with
  | nil => rfl
  | cons first rest ih =>
    obtain ⟨hfirst, hrest⟩ := List.forall_mem_cons.mp h
    rw [conjunctsAll_cons, comparisonsAll_append, hfirst, ih hrest, comparisonsAll]

theorem comparisonsAll_conjuncts (clause : Clause) :
    comparisonsAll (conjuncts clause) = comparisons clause := by
  induction clause with
  | group combinator children ih =>
    cases combinator with
    | and => exact comparisonsAll_conjunctsAll_of_forall ih
    | or => exact List.append_nil _
  | comparison _ | literal _ | column _ | compiled _ => rfl

/-- Taking conjunctions apart keeps the comparisons and their order. -/
theorem comparisonsAll_conjunctsAll (clauses : List Clause) :
    comparisonsAll (conjunctsAll clauses) = comparisonsAll clauses :=
  comparisonsAll_conjunctsAll_of_forall fun c _ => comparisonsAll_conjuncts c

end Clause

end HybridQuery
