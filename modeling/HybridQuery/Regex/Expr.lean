import HybridQuery.Regex.Utf8

/-!
# Expressions

A regular expression with nothing left of how it was written: texts are bytes, classes are
sets, flags are resolved. The functions of this module say what decides the size of an
automaton for it: which texts it matches at least (`leastLength`), whether it matches nothing
but the empty one (`isBlank`), and whether a match is tied to an end of the text (`begins`).
-/

namespace HybridQuery.Regex

/-- The boundaries of words. -/
inductive Boundary where
  | edge
  | inside
  | start
  | finish
  | startHalf
  | finishHalf
  deriving DecidableEq, Repr

/-- Conditions on a place in the text. -/
inductive Look where
  | textStart
  | textEnd
  /-- The start of a line, where lines end with a line feed or also with a carriage return. -/
  | lineStart (returns : Bool)
  | lineEnd (returns : Bool)
  /-- A boundary of words, whose letters are those of Unicode or those of ASCII. -/
  | word (boundary : Boundary) (unicode : Bool)
  deriving DecidableEq, Repr

/-- An expression. -/
inductive Expr where
  | empty
  /-- A text, in bytes. -/
  | literal (bytes : List Nat)
  /-- A character out of a set, or a single byte out of it. -/
  | set (bytewise : Bool) (chars : CodeSet)
  | look (look : Look)
  | repeated (least : Nat) (most : Option Nat) (greedy : Bool) (item : Expr)
  /-- A group whose text is kept under a number. -/
  | group (number : Nat) (item : Expr)
  | sequence (items : List Expr)
  | choice (branches : List Expr)
  deriving Repr

namespace Expr

/-- The expression that matches nothing. -/
def never : Expr :=
  .set true .empty

mutual

/-- Two expressions are the same. -/
def same : Expr → Expr → Bool
  | .empty, .empty => true
  | .literal a, .literal b => decide (a = b)
  | .set a s, .set b t => decide (a = b) && decide (s = t)
  | .look a, .look b => decide (a = b)
  | .repeated k l g a, .repeated m n h b =>
    decide (k = m) && decide (l = n) && decide (g = h) && same a b
  | .group m a, .group n b => decide (m = n) && same a b
  | .sequence a, .sequence b => sameAll a b
  | .choice a, .choice b => sameAll a b
  | _, _ => false

def sameAll : List Expr → List Expr → Bool
  | [], [] => true
  | a :: as, b :: bs => same a b && sameAll as bs
  | _, _ => false

end

mutual

/-- The number of expressions in an expression, itself included. -/
def weight : Expr → Nat
  | .repeated _ _ _ item => weight item + 1
  | .group _ item => weight item + 1
  | .sequence items => weightOfAll items + 1
  | .choice branches => weightOfAll branches + 1
  | _ => 1

def weightOfAll : List Expr → Nat
  | [] => 0
  | item :: rest => weight item + weightOfAll rest

end

mutual

/-- The expression matches no text but the empty one. -/
def isBlank : Expr → Bool
  | .empty => true
  | .literal _ => false
  | .set _ _ => false
  | .look _ => true
  | .repeated _ most _ item => most.isSome && isBlank item
  | .group _ item => isBlank item
  | .sequence items => areBlank items
  | .choice branches => areBlank branches

def areBlank : List Expr → Bool
  | [] => true
  | item :: rest => isBlank item && areBlank rest

end

/-- The number of bytes of the shortest character of a set. -/
def shortest (bytewise : Bool) (chars : CodeSet) : Option Nat :=
  chars.ranges.head?.map fun range => if bytewise then 1 else (Utf8.encode range.1).length

mutual

/-- The number of bytes that a match has at least. There is none where a part cannot match. -/
def leastLength : Expr → Option Nat
  | .empty => some 0
  | .literal bytes => some bytes.length
  | .set bytewise chars => shortest bytewise chars
  | .look _ => some 0
  | .repeated least _ _ item => (leastLength item).map (least * ·)
  | .group _ item => leastLength item
  | .sequence items => leastOfSum items
  | .choice [] => none
  | .choice (branch :: rest) => leastOfChoice (leastLength branch) rest

def leastOfSum : List Expr → Option Nat
  | [] => some 0
  | item :: rest =>
    match leastLength item, leastOfSum rest with
    | some m, some n => some (m + n)
    | _, _ => none

def leastOfChoice (before : Option Nat) : List Expr → Option Nat
  | [] => before
  | branch :: rest =>
    match before, leastLength branch with
    | some m, some n => leastOfChoice (some (min m n)) rest
    | _, _ => none

end

/-- A match has at least one byte. -/
def consumes (e : Expr) : Bool :=
  decide (0 < e.leastLength.getD 0)

mutual

/-- Every match begins with this condition. -/
def begins (look : Look) : Expr → Bool
  | .look other => decide (other = look)
  | .repeated least _ _ item => decide (0 < least) && begins look item
  | .group _ item => begins look item
  | .sequence items => someBegins look items
  | .choice branches => allBegin look branches
  | _ => false

/-- One of the items begins with the condition, and those before it are blank. -/
def someBegins (look : Look) : List Expr → Bool
  | [] => false
  | item :: rest => begins look item || (isBlank item && someBegins look rest)

def allBegin (look : Look) : List Expr → Bool
  | [] => true
  | branch :: rest => begins look branch && allBegin look rest

end

mutual

/-- The expression for the same texts read from their ends. Sets stay as they are. -/
def reverse : Expr → Expr
  | .literal bytes => .literal bytes.reverse
  | .repeated least most greedy item => .repeated least most greedy (reverse item)
  | .group number item => .group number (reverse item)
  | .sequence items => .sequence (reverseOnto [] items)
  | .choice branches => .choice (reverseEach branches)
  | e => e

/-- The items reversed and in reverse order, in front of those that are reversed already. -/
def reverseOnto (done : List Expr) : List Expr → List Expr
  | [] => done
  | item :: rest => reverseOnto (reverse item :: done) rest

def reverseEach : List Expr → List Expr
  | [] => []
  | branch :: rest => reverse branch :: reverseEach rest

end

end Expr

end HybridQuery.Regex
