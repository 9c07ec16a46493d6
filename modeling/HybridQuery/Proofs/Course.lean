import HybridQuery.Proofs.Logged
import HybridQuery.Proofs.Tree

/-!
# Computations up to an obstacle

Some computations go through a list of stops. At each of them they may make a note, and at some of
them they fail. A `Course` says which and how, and `Course.Runs` what becomes of a computation:
without an obstacle it has a value and has noted all stops, and otherwise it fails at the first
obstacle and has noted those in front of it. Computations in steps go through the stops of their
steps, one after another (`Course.Runs.bind`).
-/

namespace HybridQuery

/-- What happens at the stops of a computation: the errors by which it can fail there, and what it
notes when it passes. -/
structure Course (σ ω : Type) where
  blocks : σ → Error → Prop
  note? : σ → Option ω

namespace Course

variable {σ ω α β : Type} {course : Course σ ω} {stop : σ} {stops others : List σ}

/-- The computation does not get past this stop. -/
def IsObstacle (course : Course σ ω) (stop : σ) : Prop :=
  ∃ e, course.blocks stop e

/-- What is noted when the stops are passed. -/
def notes (course : Course σ ω) (stops : List σ) : List ω :=
  stops.filterMap course.note?

theorem notes_append (stops others : List σ) :
    course.notes (stops ++ others) = course.notes stops ++ course.notes others :=
  List.filterMap_append

theorem notes_cons (stop : σ) (stops : List σ) :
    course.notes (stop :: stops) = (course.note? stop).toList ++ course.notes stops := by
  cases h : course.note? stop <;> simp [notes, h]

/-- The computation goes through the stops, up to the first obstacle. -/
structure Runs (course : Course σ ω) (stops : List σ) (x : Logged ω α) : Prop where
  ok : (∀ stop ∈ stops, ¬course.IsObstacle stop) →
    (∃ a, x.outcome = .ok a) ∧ x.log = course.notes stops
  error : ∀ before stop, First course.IsObstacle before stop stops →
    ∃ e, course.blocks stop e ∧ x.outcome = .error e ∧ x.log = course.notes before

namespace Runs

theorem pure (a : α) : course.Runs [] (pure a : Logged ω α) where
  ok _ := ⟨⟨a, rfl⟩, rfl⟩
  error _ _ h := (First.not_nil h).elim

/-- One step after another. -/
protected theorem bind {x : Logged ω α} {f : α → Logged ω β} (hx : course.Runs stops x)
    (hf : ∀ a, x.outcome = .ok a → course.Runs others (f a)) :
    course.Runs (stops ++ others) (x >>= f) where
  ok h := by
    obtain ⟨hstops, hothers⟩ := List.forall_mem_append.mp h
    obtain ⟨⟨a, ha⟩, hlog⟩ := hx.ok hstops
    obtain ⟨⟨b, hb⟩, hlog'⟩ := (hf a ha).ok hothers
    rw [Logged.bind_of_ok ha, notes_append, hlog, hlog']
    exact ⟨⟨b, hb⟩, rfl⟩
  error before stop h := by
    rcases h.of_append with hfirst | ⟨hstops, passed, rfl, hfirst⟩
    · obtain ⟨e, he, houtcome, hlog⟩ := hx.error before stop hfirst
      rw [Logged.bind_of_error houtcome]
      exact ⟨e, he, rfl, hlog⟩
    · obtain ⟨⟨a, ha⟩, hlog⟩ := hx.ok hstops
      obtain ⟨e, he, houtcome, hlog'⟩ := (hf a ha).error passed stop hfirst
      rw [Logged.bind_of_ok ha, notes_append, hlog, hlog']
      exact ⟨e, he, houtcome, rfl⟩

/-- What follows without a stop has no part in it. -/
protected theorem map {x : Logged ω α} (hx : course.Runs stops x) (f : α → β) :
    course.Runs stops (x >>= fun a => Pure.pure (f a)) := by
  have hbind := hx.bind fun a _ => pure (f a)
  rwa [List.append_nil] at hbind

/-- A stop that is passed, with its note. -/
protected theorem note {entry : ω} (hstop : ¬course.IsObstacle stop)
    (hnote : course.note? stop = some entry) : course.Runs [stop] (Logged.note entry) where
  ok _ := ⟨⟨(), rfl⟩, by rw [notes_cons, hnote]; rfl⟩
  error _ _ h := absurd h.of_singleton.2.2 hstop

/-- A stop that is passed in silence. -/
theorem skip (hstop : ¬course.IsObstacle stop) (hnote : course.note? stop = none) (a : α) :
    course.Runs [stop] (Pure.pure a : Logged ω α) where
  ok _ := ⟨⟨a, rfl⟩, by rw [notes_cons, hnote]; rfl⟩
  error _ _ h := absurd h.of_singleton.2.2 hstop

/-- An obstacle ends the way. -/
protected theorem fail {e : Error} (h : course.blocks stop e) (stops : List σ) :
    course.Runs (stop :: stops) (Logged.lift (.error e) : Logged ω α) where
  ok hstops := absurd ⟨e, h⟩ (hstops stop List.mem_cons_self)
  error before other hfirst := by
    rcases hfirst.of_cons with ⟨rfl, rfl, -⟩ | ⟨hstop, -⟩
    · exact ⟨e, h, rfl, rfl⟩
    · exact absurd ⟨e, h⟩ hstop

/-- There is a value exactly if no stop is an obstacle. -/
theorem isOk_iff {x : Logged ω α} (hx : course.Runs stops x) :
    (∃ a, x.outcome = .ok a) ↔ ∀ stop ∈ stops, ¬course.IsObstacle stop := by
  refine ⟨fun ⟨a, ha⟩ stop hmem hstop => ?_, fun hstops => (hx.ok hstops).1⟩
  obtain ⟨before, first, hfirst⟩ := First.exists_of_mem hmem hstop
  obtain ⟨e, -, houtcome, -⟩ := hx.error before first hfirst
  rw [ha] at houtcome
  cases houtcome

/-- Nothing else is noted than what belongs to stops. -/
theorem exists_notes {x : Logged ω α} (hx : course.Runs stops x) :
    ∃ passed, x.log = course.notes passed := by
  by_cases hstops : ∀ stop ∈ stops, ¬course.IsObstacle stop
  · exact ⟨stops, (hx.ok hstops).2⟩
  · obtain ⟨stop, hmem, hstop⟩ : ∃ stop ∈ stops, course.IsObstacle stop := by simpa using hstops
    obtain ⟨before, first, hfirst⟩ := First.exists_of_mem hmem hstop
    obtain ⟨-, -, -, hlog⟩ := hx.error before first hfirst
    exact ⟨before, hlog⟩

end Runs

end Course

end HybridQuery
