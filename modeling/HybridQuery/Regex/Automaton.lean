import HybridQuery.Regex.Automaton.Set
import HybridQuery.Regex.Automaton.Trie
import HybridQuery.Regex.Expr

/-!
# Automata for expressions

The automaton for an expression has a part for each of its expressions, put together as the
expression is. Repetitions are unrolled: what has to come five times is there five times. So a
short expression can need a large automaton. Two automata are needed, one to find where a match
ends and one to find where it begins, and `measure` refuses an expression if either is too
large.
-/

namespace HybridQuery.Regex

/-- Which way an automaton reads. -/
inductive Direction where
  | forward
  | backward
  deriving DecidableEq, Repr

/-- `n` times the same part, after a part that ends in `last`. -/
def times (part : Build End) : Nat → End → Build End
  | 0, last => return last
  | n + 1, last => do
    let next ← part
    last.link
    times part n next

/-- Up to `n` times the same part, each with a way to leave the rest out. -/
def upTo (part : Build End) : Nat → End → Build End
  | 0, last => do
    last.link
    return .single
  | n + 1, last => do
    let _ ← Build.state 0
    let next ← part
    last.link
    Build.branch
    Build.branch
    upTo part n next

/-- A part any number of times. What can match the empty text needs a state to leave by. -/
def anyTimes (consumes : Bool) (part : Build End) : Build End :=
  if consumes then do
    let _ ← Build.state 0
    let last ← part
    Build.branch
    last.link
    return .branching
  else do
    let last ← part
    let _ ← Build.state 0
    last.link
    Build.branch
    let _ ← Build.state 0
    let _ ← Build.state 0
    Build.branch
    Build.branch
    Build.branch
    return .single

/-- A part exactly `n` times. -/
def exactly (part : Build End) : Nat → Build End
  | 0 => do
    let _ ← Build.state 0
    return .single
  | n + 1 => times part (n + 1) .single

/-- A part that is repeated. -/
def repetition (consumes : Bool) (part : Build End) : Nat → Option Nat → Build End
  | 0, none => anyTimes consumes part
  | least, none => do
    let last ← times part least .single
    let _ ← Build.state 0
    last.link
    Build.branch
    return .branching
  | 0, some 1 => do
    let _ ← Build.state 0
    let last ← part
    let _ ← Build.state 0
    Build.branch
    Build.branch
    last.link
    return .single
  | least, some most =>
    if least = most then exactly part least
    else do
      let last ← exactly part least
      let _ ← Build.state 0
      upTo part (most - least) last

/-- A character out of a set. Those of one byte need a single state. -/
def charIn (d : Direction) (bytewise : Bool) (chars : CodeSet) : Build End :=
  if bytewise || chars.isAscii then do
    let _ ← Build.state 0
    let _ ← Build.state (chars.ranges.length * Size.ofEdge)
    return .single
  else
    match d with
    | .forward => forwardSet chars
    | .backward => backwardSet chars

/-- The texts that all expressions of a list are. -/
def texts? (es : List Expr) : Option (List (List Nat)) :=
  es.mapM fun e =>
    match e with
    | .literal bytes => some bytes
    | _ => none

mutual

/-- Adds the part for an expression. Only forward, the ends of groups are noted. -/
def build (d : Direction) : Expr → Build End
  | .empty => do
    let _ ← Build.state 0
    return .single
  | .literal bytes => do
    Build.grow bytes.length 0
    return .single
  | .set bytewise chars => charIn d bytewise chars
  | .look _ => do
    let _ ← Build.state 0
    return .single
  | .repeated least most _ item => repetition item.consumes (build d item) least most
  | .group _ item =>
    match d with
    | .backward => build d item
    | .forward => do
      let _ ← Build.state 0
      let last ← build d item
      let _ ← Build.state 0
      last.link
      return .single
  | .sequence items => buildAfter d .single items
  | .choice branches =>
    match texts? branches with
    | some texts => trie texts
    | none => buildBranches d 2 branches

/-- Adds the parts for a sequence, after a part that ends in `last`. -/
def buildAfter (d : Direction) (last : End) : List Expr → Build End
  | [] => return last
  | item :: rest => do
    let next ← build d item
    last.link
    buildAfter d next rest

/-- Adds the parts for the branches of a choice. The state before them and the one after them
come when `n` branches are there. -/
def buildBranches (d : Direction) (n : Nat) : List Expr → Build End
  | [] => return .single
  | branch :: rest => do
    let last ← build d branch
    if n = 1 then Build.grow 2 0
    Build.branch
    last.link
    buildBranches d (n - 1) rest

end

/-- The automaton for an expression that is read in this direction. Around the part for the
expression it has states that skip what comes before a match, unless matches are tied to the
end of the text where it begins to read, and those for a match. -/
def automaton (d : Direction) (e : Expr) : Build Unit := do
  let tied := e.begins (match d with | .forward => .textStart | .backward => .textEnd)
  if tied then Build.grow 1 0
  else Build.grow 3 (Size.ofEdge + 2 * Size.ofBranch)
  let last ← build d (.group 0 e)
  last.link
  Build.grow 1 0

/-- Refuses an expression whose automaton is too large in one of the directions. -/
def measure (e : Expr) : Except Fault Unit := do
  let _ ← (automaton .forward e).run {}
  let _ ← (automaton .backward e.reverse).run {}
  return ()

end HybridQuery.Regex
