import HybridQuery.Regex.Fault

/-!
# The size of an automaton

An automaton is put together state by state, and its size is the number of bytes that this
takes: so many for each state, and some more for what the state leads to. Nothing else of the
automaton is needed here, so that it is never stored. Putting it together stops when it
becomes too large.
-/

namespace HybridQuery.Regex

/-- An automaton as far as it is put together. -/
structure Size where
  /-- The number of states, which is also the number of the next one. -/
  states : Nat := 0
  bytes : Nat := 0
  deriving DecidableEq, Repr

namespace Size

/-- The largest automaton that is accepted, in bytes. -/
def limit : Nat := 10485760

/-- The size of a state in bytes. -/
def ofState : Nat := 32

/-- The size of one of several edges on ranges of bytes. -/
def ofEdge : Nat := 8

/-- The size of one way on from a state that branches. -/
def ofBranch : Nat := 4

end Size

/-- A step in putting an automaton together. -/
abbrev Build := StateT Size (Except Fault)

namespace Build

/-- Adds states, with what is stored besides them. -/
def grow (states bytes : Nat) : Build Unit := fun size =>
  let bytes := size.bytes + (states * Size.ofState + bytes)
  if Size.limit < bytes then .error .tooLarge else .ok ((), ⟨size.states + states, bytes⟩)

/-- Adds a state and gives its number. -/
def state (bytes : Nat) : Build Nat := do
  let size ← get
  grow 1 bytes
  return size.states

/-- Adds a way on to a state that branches. -/
def branch : Build Unit :=
  grow 0 Size.ofBranch

end Build

/-- How a part of an automaton ends: in a state with one way on, or in one that branches. -/
inductive End where
  | single
  | branching
  deriving DecidableEq, Repr

/-- Connects the end of a part with what follows. -/
def End.link : End → Build Unit
  | .single => pure ()
  | .branching => Build.branch

end HybridQuery.Regex
