import HybridQuery.Regex.Fault
import HybridQuery.Regex.Simplify

/-!
# What is written

The tree of an expression as it is written. It decides how deep an expression is nested
(`depth`); what it stands for is the expression that `simplify` makes of it.
-/

namespace HybridQuery.Regex

/-- An expression as it is written. -/
inductive Tree where
  /-- A character, a place or a class, and how deep classes are nested in it. -/
  | leaf (e : Expr) (depth : Nat)
  /-- Flags for what follows. -/
  | setting
  | repeated (least : Nat) (most : Option Nat) (greedy : Bool) (item : Tree)
  /-- A group, with a number if its text is kept. -/
  | group (number : Option Nat) (item : Tree)
  | sequence (items : List Tree)
  | choice (branches : List Tree)
  deriving Repr

namespace Tree

/-- Trees one after another. A single one stands for itself. -/
def ofItems : List Tree → Tree
  | [] => .leaf .empty 0
  | [item] => item
  | items => .sequence items

/-- A choice of trees. A single one stands for itself. -/
def ofBranches : List Tree → Tree
  | [branch] => branch
  | branches => .choice branches

mutual

/-- How deep a tree is nested. -/
def depth : Tree → Nat
  | .leaf _ depth => depth
  | .setting => 0
  | .repeated _ _ _ item => depth item + 1
  | .group _ item => depth item + 1
  | .sequence items => depthOfAll items + 1
  | .choice branches => depthOfAll branches + 1

/-- How deep the deepest of some trees is nested. -/
def depthOfAll : List Tree → Nat
  | [] => 0
  | item :: rest => max (depth item) (depthOfAll rest)

end

mutual

/-- The expression that a tree stands for. -/
def simplify : Tree → Expr
  | .leaf e _ => e
  | .setting => .empty
  | .repeated least most greedy item => .ofCount least most greedy (simplify item)
  | .group (some number) item => .group number (simplify item)
  | .group none item => simplify item
  | .sequence items => .ofItems (simplifyAll items)
  | .choice branches => .ofBranches (simplifyAll branches)

def simplifyAll : List Tree → List Expr
  | [] => []
  | item :: rest => simplify item :: simplifyAll rest

end

/-- The deepest nesting that is accepted. -/
def depthLimit : Nat := 250

/-- Refuses a tree that is nested too deep. -/
def check (t : Tree) : Except Fault Unit :=
  if depthLimit < t.depth then .error .nestedTooDeep else .ok ()

end Tree

end HybridQuery.Regex
