import HybridQuery.Regex.Expr

/-!
# Simpler expressions

Each way to build an expression leaves out what makes no difference: repetitions of the empty
text, items that match only that, sequences inside of sequences, and choices that are a set of
characters or begin with the same items.
-/

namespace HybridQuery.Regex.Expr

/-- A character out of a set. The only one of a set is a text, and an empty set matches
nothing. -/
def ofSet (bytewise : Bool) (chars : CodeSet) : Expr :=
  match chars.ranges with
  | [] => never
  | [(low, high)] =>
    if low = high then .literal (if bytewise then [low] else Utf8.encode low)
    else .set bytewise chars
  | _ => .set bytewise chars

/-- A repetition. More than once makes no difference for what only matches the empty text. -/
def ofCount (least : Nat) (most : Option Nat) (greedy : Bool) (item : Expr) : Expr :=
  let least' := if item.isBlank then min least 1 else least
  let most' := if item.isBlank then some (min (most.getD 1) 1) else most
  if least' = 0 ∧ most' = some 0 then .empty
  else if least' = 1 ∧ most' = some 1 then item
  else .repeated least' most' greedy item

/-! ## Sequences -/

/-- The items of a sequence, and any other expression as the only item. -/
def items : Expr → List Expr
  | .empty => []
  | .sequence items => items
  | e => [e]

/-- Neighbouring texts joined to one. -/
def joinTexts : List Expr → List Expr
  | [] => []
  | .literal bytes :: rest =>
    match joinTexts rest with
    | .literal more :: others => .literal (bytes ++ more) :: others
    | others => .literal bytes :: others
  | e :: rest => e :: joinTexts rest

/-- Expressions one after another. -/
def ofItems (es : List Expr) : Expr :=
  match joinTexts (es.flatMap items) with
  | [] => .empty
  | [e] => e
  | es => .sequence es

/-! ## Choices -/

/-- The branches of a choice, and any other expression as the only branch. -/
def branches : Expr → List Expr
  | .choice branches => branches
  | e => [e]

/-- The only character of a text. -/
def char? : Expr → Option Nat
  | .literal bytes => Utf8.decode? bytes
  | _ => none

/-- The ranges of a set. -/
def ranges? : Expr → Option (List (Nat × Nat))
  | .set _ chars => some chars.ranges
  | _ => none

/-- The set that a choice between characters or between sets is. -/
def setOf? (es : List Expr) : Option CodeSet :=
  match es.mapM char? with
  | some chars => some (.ofRanges (chars.map fun c => (c, c)))
  | none => (es.mapM ranges?).map fun ranges => .ofRanges ranges.flatten

/-- The items of a sequence. -/
def sequence? : Expr → Option (List Expr)
  | .sequence items => some items
  | _ => none

/-- What two lists have in common at their beginning. -/
def sharedItems : List Expr → List Expr → List Expr
  | a :: as, b :: bs => if same a b then a :: sharedItems as bs else []
  | _, _ => []

/-- A choice. What all branches begin with is put in front of it, and every such step leaves
less of the branches, so that `n` steps are enough if they weigh no more. -/
def choose : Nat → List Expr → Expr
  | 0, es => .choice es
  | n + 1, es =>
    match es.flatMap branches with
    | [] => never
    | [e] => e
    | es =>
      match setOf? es with
      | some chars => ofSet false chars
      | none =>
        match es.mapM sequence? with
        | some (first :: others) =>
          let shared := others.foldl sharedItems first
          if shared.isEmpty then .choice es
          else
            let rests := (first :: others).map fun items => ofItems (items.drop shared.length)
            ofItems (shared ++ [choose n rests])
        | _ => .choice es

/-- A choice between expressions. -/
def ofBranches (es : List Expr) : Expr :=
  choose (weightOfAll es + 1) es

end HybridQuery.Regex.Expr
