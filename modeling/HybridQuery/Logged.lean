import HybridQuery.Error

/-!
# Computations that keep a log

A `Logged` computation ends in a value or an error, and has a log either way: what was noted
before an error stays noted. Rendering notes the columns and tables it meets, splitting a
query notes where each comparison goes. Running one computation after another appends their
logs, so a log is read off a computation part by part.
-/

namespace HybridQuery

/-- A value or an error, with what was noted on the way. -/
structure Logged (ω α : Type) where
  log : List ω
  outcome : Except Error α

namespace Logged

variable {ω α β γ : Type}

/-- A value, with nothing noted. -/
protected def pure (a : α) : Logged ω α :=
  ⟨[], .ok a⟩

/-- An outcome, with nothing noted. -/
def lift (outcome : Except Error α) : Logged ω α :=
  ⟨[], outcome⟩

/-- An error, with nothing noted. -/
def fail (error : Error) : Logged ω α :=
  ⟨[], .error error⟩

/-- Nothing but a note. -/
def note (entry : ω) : Logged ω Unit :=
  ⟨[entry], .ok ()⟩

/-- Whatever `x` ends in is handed on, an error too. -/
def andThen (x : Logged ω α) (f : Except Error α → Logged ω β) : Logged ω β :=
  let y := f x.outcome
  ⟨x.log ++ y.log, y.outcome⟩

/-- A value is handed on, an error ends the computation. -/
protected def bind (x : Logged ω α) (f : α → Logged ω β) : Logged ω β :=
  match x.outcome with
  | .ok a =>
    let y := f a
    ⟨x.log ++ y.log, y.outcome⟩
  | .error e => ⟨x.log, .error e⟩

instance : Monad (Logged ω) where
  pure := Logged.pure
  bind := Logged.bind

theorem ext {x y : Logged ω α} (hl : x.log = y.log) (ho : x.outcome = y.outcome) : x = y := by
  cases x; cases y; cases hl; cases ho; rfl

@[simp] theorem pure_bind (a : α) (f : α → Logged ω β) : (pure a : Logged ω α) >>= f = f a := rfl

theorem bind_of_ok {x : Logged ω α} {a : α} (h : x.outcome = .ok a) (f : α → Logged ω β) :
    x >>= f = ⟨x.log ++ (f a).log, (f a).outcome⟩ := by
  simp only [Bind.bind, Logged.bind, h]

theorem bind_of_error {x : Logged ω α} {e : Error} (h : x.outcome = .error e)
    (f : α → Logged ω β) : x >>= f = ⟨x.log, .error e⟩ := by
  simp only [Bind.bind, Logged.bind, h]

theorem bind_assoc (x : Logged ω α) (f : α → Logged ω β) (g : β → Logged ω γ) :
    x >>= f >>= g = x >>= fun a => f a >>= g := by
  cases hx : x.outcome with
  | error e => simp only [Bind.bind, Logged.bind, hx]
  | ok a =>
    cases hf : (f a).outcome with
    | error e => simp only [Bind.bind, Logged.bind, hx, hf]
    | ok b => simp only [Bind.bind, Logged.bind, hx, hf, List.append_assoc]

/-- Computations one after another, with the list of their values. -/
def each (f : α → Logged ω β) : List α → Logged ω (List β)
  | [] => pure []
  | a :: rest => do
    let b ← f a
    let bs ← each f rest
    pure (b :: bs)

end Logged

end HybridQuery
