import HybridQuery.Logged
import Mathlib.Data.List.Forall2

/-!
# Outcomes of logged computations

A computation in steps ends in a value exactly if each of its steps does (`Logged.bind_eq_ok`),
and then its log is the logs of the steps, one after another (`Logged.log_bind`). Otherwise it ends
in the error of the first step that fails (`Logged.bind_eq_error`), so errors that no step has are
not an outcome (`OnlyFails.bind`). Going through a list gives a value for each item
(`Logged.forall₂_of_each`) and may be cut anywhere (`Logged.each_append`). What a computation
`Leaves` in its log when it succeeds is put together in the same way.
-/

namespace HybridQuery

variable {ω α β γ : Type}

/-! ## Lists with a value for each item -/

/-- What follows from having a value holds of every item. -/
theorem forall_mem_of_forall₂ {r : α → β → Prop} {p : α → Prop} {as : List α} {bs : List β}
    (h : List.Forall₂ r as bs) (hp : ∀ a b, r a b → p a) : ∀ a ∈ as, p a :=
  ((List.forall₂_and_left (R := r) as bs).mp (h.imp fun a b hab => ⟨hp a b hab, hab⟩)).1

theorem forall₂_imp_of_mem {r s : α → β → Prop} {as : List α} {bs : List β}
    (h : List.Forall₂ r as bs) (hs : ∀ a ∈ as, ∀ b, r a b → s a b) : List.Forall₂ s as bs :=
  ((List.forall₂_and_left as bs).mpr ⟨hs, h⟩).imp fun _ b hab => hab.1 b hab.2

/-! ## Computations in steps -/

theorem bind_eq_ok {x : Except Error α} {f : α → Except Error β} {b : β} :
    x >>= f = .ok b ↔ ∃ a, x = .ok a ∧ f a = .ok b := by
  cases x with
  | error e => simp [Bind.bind, Except.bind]
  | ok a => simp [Bind.bind, Except.bind]

theorem bind_eq_error {x : Except Error α} {f : α → Except Error β} {e : Error} :
    x >>= f = .error e ↔ x = .error e ∨ ∃ a, x = .ok a ∧ f a = .error e := by
  cases x with
  | error e => simp [Bind.bind, Except.bind]
  | ok a => simp [Bind.bind, Except.bind]

theorem map_eq_ok {x : Except Error α} {f : α → β} {b : β} :
    f <$> x = .ok b ↔ ∃ a, x = .ok a ∧ f a = b := by
  cases x with
  | error e => simp [Functor.map, Except.map]
  | ok a => simp [Functor.map, Except.map]

/-- A list has values if each of its items has one. -/
theorem isOk_mapM {f : α → Except Error β} :
    ∀ {as : List α}, (∀ a ∈ as, ∃ b, f a = .ok b) → ∃ bs, as.mapM f = .ok bs
  | [], _ => ⟨[], rfl⟩
  | a :: rest, h => by
    obtain ⟨⟨b, hb⟩, hrest⟩ := List.forall_mem_cons.mp h
    obtain ⟨bs, hbs⟩ := isOk_mapM hrest
    rw [List.mapM_cons]
    exact ⟨b :: bs, bind_eq_ok.mpr ⟨b, hb, bind_eq_ok.mpr ⟨bs, hbs, rfl⟩⟩⟩

namespace Logged

@[simp] theorem outcome_pure (a : α) : (pure a : Logged ω α).outcome = .ok a := rfl

@[simp] theorem log_pure (a : α) : (pure a : Logged ω α).log = [] := rfl

@[simp] theorem outcome_lift (x : Except Error α) : (lift x : Logged ω α).outcome = x := rfl

/-- A computation in two steps ends in a value exactly if both of them do. -/
theorem bind_eq_ok {x : Logged ω α} {f : α → Logged ω β} {b : β} :
    (x >>= f).outcome = .ok b ↔ ∃ a, x.outcome = .ok a ∧ (f a).outcome = .ok b := by
  cases h : x.outcome with
  | error e => simp [bind_of_error h]
  | ok a => simp [bind_of_ok h]

theorem bind_eq_error {x : Logged ω α} {f : α → Logged ω β} {e : Error} :
    (x >>= f).outcome = .error e ↔
      x.outcome = .error e ∨ ∃ a, x.outcome = .ok a ∧ (f a).outcome = .error e := by
  cases h : x.outcome with
  | error e => simp [bind_of_error h]
  | ok a => simp [bind_of_ok h]

theorem log_bind {x : Logged ω α} {a : α} (h : x.outcome = .ok a) (f : α → Logged ω β) :
    (x >>= f).log = x.log ++ (f a).log := by
  rw [bind_of_ok h]

/-- A note is no obstacle. -/
@[simp] theorem outcome_note_bind (entry : ω) (f : Unit → Logged ω β) :
    (note entry >>= f).outcome = (f ()).outcome := rfl

theorem lift_bind (x : Except Error α) (f : α → Except Error β) :
    (lift (x >>= f) : Logged ω β) = lift x >>= fun a => lift (f a) := by
  cases x <;> rfl

theorem lift_map (f : α → β) (x : Except Error α) :
    (lift (f <$> x) : Logged ω β) = lift x >>= fun a => pure (f a) := by
  cases x <;> rfl

end Logged

/-! ## Errors -/

/-- Whatever error there is, it is one of this kind. -/
def OnlyFails (kind : Error → Prop) (x : Except Error α) : Prop :=
  ∀ e, x = .error e → kind e

namespace OnlyFails

variable {kind : Error → Prop}

theorem ok (a : α) : OnlyFails kind (.ok a) := by
  intro e h
  cases h

theorem error {e : Error} (h : kind e) : OnlyFails kind (.error e : Except Error α) := by
  intro e' h'
  cases h'
  exact h

theorem mono {kind' : Error → Prop} {x : Except Error α} (hx : OnlyFails kind x)
    (h : ∀ e, kind e → kind' e) : OnlyFails kind' x :=
  fun e he => h e (hx e he)

protected theorem bind {x : Except Error α} {f : α → Except Error β} (hx : OnlyFails kind x)
    (hf : ∀ a, OnlyFails kind (f a)) : OnlyFails kind (x >>= f) := by
  intro e h
  rcases bind_eq_error.mp h with h | ⟨a, -, h⟩
  · exact hx e h
  · exact hf a e h

theorem logged_bind {x : Logged ω α} {f : α → Logged ω β} (hx : OnlyFails kind x.outcome)
    (hf : ∀ a, OnlyFails kind (f a).outcome) : OnlyFails kind (x >>= f).outcome := by
  intro e h
  rcases Logged.bind_eq_error.mp h with h | ⟨a, -, h⟩
  · exact hx e h
  · exact hf a e h

protected theorem map {x : Except Error α} (f : α → β) (hx : OnlyFails kind x) :
    OnlyFails kind (f <$> x) := by
  intro e h
  cases x with
  | ok a => cases h
  | error other =>
    cases h
    exact hx e rfl

end OnlyFails

namespace Logged

/-! ## Lists -/

theorem lift_mapM (f : α → Except Error β) :
    ∀ as : List α, (lift (as.mapM f) : Logged ω (List β)) = each (fun a => lift (f a)) as
  | [] => rfl
  | a :: rest => by
    rw [List.mapM_cons, lift_bind, each]
    simp only [lift_bind, lift_mapM f rest]
    rfl

/-- Going through a list without notes. -/
theorem each_of_mapM {f : α → Except Error β} {as : List α} {bs : List β}
    (h : as.mapM f = .ok bs) : (each (fun a => lift (f a)) as : Logged Unit (List β)).outcome =
      .ok bs := by
  rwa [← lift_mapM]

/-- Lists whose items are the same computations in pairs are gone through alike. -/
theorem each_congr {f : α → Logged ω β} {g : γ → Logged ω β} {as : List α} {cs : List γ}
    (h : List.Forall₂ (fun a c => f a = g c) as cs) : each f as = each g cs := by
  induction h with
  | nil => rfl
  | cons hfirst _ ih => rw [each, each, hfirst, ih]

theorem onlyFails_each {kind : Error → Prop} {f : α → Logged ω β} :
    ∀ {as : List α}, (∀ a ∈ as, OnlyFails kind (f a).outcome) → OnlyFails kind (each f as).outcome
  | [], _ => .ok []
  | a :: rest, h => by
    obtain ⟨ha, hrest⟩ := List.forall_mem_cons.mp h
    exact ha.logged_bind fun _ => (onlyFails_each hrest).logged_bind fun _ => .ok _

/-- The value of an item stands in the place of the item. -/
theorem forall₂_of_each {f : α → Logged ω β} {r : α → β → Prop} :
    ∀ {as : List α} {bs : List β}, (each f as).outcome = .ok bs →
      (∀ a ∈ as, ∀ b ∈ bs, (f a).outcome = .ok b → r a b) → List.Forall₂ r as bs
  | [], bs, h, _ => by
    cases h
    exact .nil
  | a :: rest, bs, h, hr => by
    obtain ⟨b, hb, h⟩ := bind_eq_ok.mp h
    obtain ⟨others, hothers, h⟩ := bind_eq_ok.mp h
    cases h
    refine .cons (hr a List.mem_cons_self b List.mem_cons_self hb) (forall₂_of_each hothers ?_)
    exact fun c hc d hd => hr c (List.mem_cons_of_mem _ hc) d (List.mem_cons_of_mem _ hd)

theorem isOk_of_each {f : α → Logged ω β} {as : List α} {bs : List β}
    (h : (each f as).outcome = .ok bs) : ∀ a ∈ as, ∃ b, (f a).outcome = .ok b := by
  have hvalues : List.Forall₂ (fun a b => (f a).outcome = .ok b) as bs :=
    forall₂_of_each h fun _ _ _ _ => id
  exact forall_mem_of_forall₂ hvalues fun _ b hb => ⟨b, hb⟩

/-- Each value is that of an item. -/
theorem exists_of_mem_each {f : α → Logged ω β} :
    ∀ {as : List α} {bs : List β}, (each f as).outcome = .ok bs →
      ∀ b ∈ bs, ∃ a ∈ as, (f a).outcome = .ok b
  | [], bs, h, b, hb => by
    cases h
    cases hb
  | first :: rest, bs, h, b, hb => by
    obtain ⟨lead, hlead, h⟩ := bind_eq_ok.mp h
    obtain ⟨others, hothers, h⟩ := bind_eq_ok.mp h
    cases h
    rcases List.mem_cons.mp hb with rfl | hb
    · exact ⟨first, List.mem_cons_self, hlead⟩
    · obtain ⟨a, ha, hvalue⟩ := exists_of_mem_each hothers b hb
      exact ⟨a, List.mem_cons_of_mem _ ha, hvalue⟩

/-- Every item of the list gives one value. -/
theorem length_of_each {f : α → Logged ω β} {as : List α} {bs : List β}
    (h : (each f as).outcome = .ok bs) : bs.length = as.length :=
  (forall₂_of_each h fun _ _ _ _ => id).length_eq.symm

/-- A list is gone through part by part. -/
theorem each_append (f : α → Logged ω β) (others : List α) :
    ∀ as : List α, each f (as ++ others) =
      each f as >>= fun xs => each f others >>= fun ys => pure (xs ++ ys)
  | [] => by
    have hunit : ∀ x : Logged ω (List β), (x >>= fun ys => pure ([] ++ ys)) = x := by
      intro x
      cases h : x.outcome with
      | error e => exact ext (by rw [bind_of_error h]) (by rw [bind_of_error h, h])
      | ok ys => exact ext (by simp [log_bind h]) (by simp [bind_of_ok h, h])
    exact (hunit _).symm
  | a :: rest => by
    have ih := each_append f others rest
    simp only [List.cons_append, each, ih, bind_assoc, pure_bind]

end Logged

/-! ## Logs -/

/-- If the computation succeeds, these are its notes. -/
def Logged.Leaves (notes : List ω) (x : Logged ω α) : Prop :=
  ∀ a, x.outcome = .ok a → x.log = notes

namespace Logged.Leaves

variable {notes others : List ω}

theorem pure (a : α) : Leaves ([] : List ω) (pure a : Logged ω α) :=
  fun _ _ => rfl

theorem lift (x : Except Error α) : Leaves ([] : List ω) (lift x : Logged ω α) :=
  fun _ _ => rfl

theorem fail (e : Error) : Leaves notes (fail e : Logged ω α) := by
  intro a h
  cases h

protected theorem bind {x : Logged ω α} {f : α → Logged ω β} (hx : Leaves notes x)
    (hf : ∀ a, Leaves others (f a)) : Leaves (notes ++ others) (x >>= f) := by
  intro b h
  obtain ⟨a, ha, hb⟩ := bind_eq_ok.mp h
  rw [log_bind ha, hx a ha, hf a b hb]

/-- A result that is put into another one. -/
protected theorem map {x : Logged ω α} (f : α → β) (hx : Leaves notes x) :
    Leaves notes (x >>= fun a => Pure.pure (f a)) := by
  have hbind := hx.bind fun a => pure (f a)
  rwa [List.append_nil] at hbind

/-- A note stands in front of those that follow. -/
protected theorem note {f : Unit → Logged ω β} (entry : ω) (hf : Leaves notes (f ())) :
    Leaves (entry :: notes) (note entry >>= f) := by
  intro b h
  have hlog : (note entry >>= f).log = entry :: (f ()).log := rfl
  rw [hlog, hf b h]

/-- Each item of a list leaves its own notes. -/
protected theorem each {f : α → Logged ω β} {notes : α → List ω} :
    ∀ {as : List α}, (∀ a ∈ as, Leaves (notes a) (f a)) →
      Leaves (as.flatMap notes) (each f as)
  | [], _ => pure []
  | first :: rest, h => by
    obtain ⟨hfirst, hrest⟩ := List.forall_mem_cons.mp h
    exact hfirst.bind fun b => (Leaves.each hrest).map (b :: ·)

end Logged.Leaves

end HybridQuery
