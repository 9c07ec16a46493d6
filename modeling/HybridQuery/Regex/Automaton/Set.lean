import HybridQuery.Regex.Automaton.Size
import HybridQuery.Regex.Utf8
import Std.Data.HashMap

/-!
# Automata for sets of characters

A character of several bytes is read by several states, and characters that begin or end with
the same bytes share some of them. Read forward, the states form a tree from which equal
branches are shared (`forwardSet`). Read backward, every sequence of bytes is a path to the
end, and paths share what they begin with (`backwardSet`). States that can be shared are kept
in a memory with a fixed number of slots, so that few states escape being shared: those that
lost their slot to another one.
-/

namespace HybridQuery.Regex

/-! ## Memory of states -/

/-- States by what they do: in every slot the latest one that belongs there. -/
abbrev Memory (α : Type) := Std.HashMap Nat (α × Nat)

/-- Mixes numbers to one of 64 bits: each is combined with the result so far, bit by bit, and
multiplied by a prime. -/
def mix (numbers : List Nat) : UInt64 :=
  numbers.foldl (fun h n => (h ^^^ n.toUInt64) * 1099511628211) 14695981039346656037

/-- The state that is remembered under a key, or a new one. -/
def intern {α : Type} [DecidableEq α] (slots : Nat) (numbers : List Nat) (key : α) (bytes : Nat)
    (memory : Memory α) : Build (Nat × Memory α) :=
  let slot := (mix numbers).toNat % slots
  let fresh : Build (Nat × Memory α) := do
    let id ← Build.state bytes
    return (id, memory.insert slot (key, id))
  match memory[slot]? with
  | some (other, id) => if other = key then return (id, memory) else fresh
  | none => fresh

/-! ## Forward -/

/-- Sequences by their first bytes, and what follows those. Sequences that begin alike stand
together. -/
def byFirst : List (List Utf8.ByteRange) → List (Utf8.ByteRange × List (List Utf8.ByteRange))
  | [] => []
  | [] :: rest => byFirst rest
  | (first :: tail) :: rest =>
    match byFirst rest with
    | (other, tails) :: groups =>
      if first = other then (first, tail :: tails) :: groups
      else (first, [tail]) :: (other, tails) :: groups
    | [] => [(first, [tail])]

/-- The edges of a state: on which bytes it leads to which state. -/
abbrev Edges := List (Utf8.ByteRange × Nat)

/-- The numbers that tell edges from others. -/
def Edges.numbers (edges : Edges) : List Nat :=
  edges.flatMap fun edge => [edge.1.1, edge.1.2, edge.2]

mutual

/-- A state that reads one of the sequences, of at most `n` bytes, on the way to `target`. -/
def treeState (target : Nat) : Nat → List (List Utf8.ByteRange) → Memory Edges →
    Build (Nat × Memory Edges)
  | 0, _, memory => return (target, memory)
  | n + 1, sequences, memory => do
    let (edges, memory) ← treeEdges target n (byFirst sequences) memory
    intern 10000 edges.numbers edges (edges.length * Size.ofEdge) memory

/-- The edges to the states for what follows the first bytes. -/
def treeEdges (target : Nat) : Nat → List (Utf8.ByteRange × List (List Utf8.ByteRange)) →
    Memory Edges → Build (Edges × Memory Edges)
  | _, [], memory => return ([], memory)
  | n, (first, tails) :: groups, memory => do
    let (next, memory) ←
      if tails.all List.isEmpty then pure (target, memory) else treeState target n tails memory
    let (edges, memory) ← treeEdges target n groups memory
    return ((first, next) :: edges, memory)

end

/-- Reads a character of a set. -/
def forwardSet (chars : CodeSet) : Build End := do
  let target ← Build.state 0
  let _ ← treeState target 4 (chars.ranges.flatMap Utf8.sequences) ∅
  return .single

/-! ## Backward -/

/-- A path that reads a sequence from its end to `target`. -/
def path (target : Nat) : List Utf8.ByteRange → Memory (Nat × Utf8.ByteRange) →
    Build (Nat × Memory (Nat × Utf8.ByteRange))
  | [], memory => return (target, memory)
  | range :: rest, memory => do
    let (id, memory) ← intern 1000 [target, range.1, range.2] (target, range) 0 memory
    path id rest memory

/-- Paths for sequences, each of which is a branch of the state before them. -/
def paths (target : Nat) :
    List (List Utf8.ByteRange) → Memory (Nat × Utf8.ByteRange) → Build Unit
  | [], _ => return ()
  | sequence :: rest, memory => do
    let (_, memory) ← path target sequence memory
    Build.branch
    paths target rest memory

/-- Reads a character of a set from its end. -/
def backwardSet (chars : CodeSet) : Build End := do
  let _ ← Build.state 0
  let target ← Build.state 0
  paths target (chars.ranges.flatMap Utf8.sequences) ∅
  return .single

end HybridQuery.Regex
