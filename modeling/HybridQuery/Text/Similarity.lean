/-!
# Similar words

How alike two words are, by the measure of Jaro and Winkler: characters match when they are
equal and not far apart, matches out of order count less, and a common beginning counts more.
`similarity` is a fraction, so that words are ranked exactly; `closest?` finds the word that a
misspelt one was meant to be.
-/

namespace HybridQuery

/-- Marks the first free place of `c` between the places `low` and `high`, if there is one.
`place` is the place of the list's head. -/
def claim (c : Char) (low high : Nat) : Nat → List (Char × Bool) → Option (List (Char × Bool))
  | _, [] => none
  | place, (d, taken) :: rest =>
    if c = d ∧ taken = false ∧ low ≤ place ∧ place < high then some ((d, true) :: rest)
    else (claim c low high (place + 1) rest).map ((d, taken) :: ·)

/-- The characters of a word that match one of another, and the other word with the matching
places marked. -/
def matchFrom (reach : Nat) : Nat → List Char → List (Char × Bool) → List Char × List (Char × Bool)
  | _, [], other => ([], other)
  | place, c :: rest, other =>
    match claim c (place - reach) (place + reach + 1) 0 other with
    | some marked =>
      let (chars, final) := matchFrom reach (place + 1) rest marked
      (c :: chars, final)
    | none => matchFrom reach (place + 1) rest other

/-- The number of characters with which both words begin. -/
def commonStart : List Char → List Char → Nat
  | c :: s, d :: t => if c = d then commonStart s t + 1 else 0
  | _, _ => 0

/-- How alike two words are, as the parts of a fraction between zero and one. -/
def similarity (a b : List Char) : Nat × Nat :=
  let reach := max a.length b.length / 2 - 1
  let (matched, marked) := matchFrom reach 0 a (b.map fun c => (c, false))
  let others := (marked.filter (·.2)).map (·.1)
  let m := matched.length
  let swapped := ((matched.zip others).filter fun pair => pair.1 ≠ pair.2).length / 2
  if m = 0 then (if a.isEmpty && b.isEmpty then (1, 1) else (0, 1))
  else
    let whole := 3 * a.length * b.length * m
    let part := m * m * b.length + m * m * a.length + (m - swapped) * a.length * b.length
    if 7 * whole < 10 * part then
      let start := min 4 (commonStart a b)
      (10 * part + start * (whole - part), 10 * whole)
    else (part, whole)

/-- The word most like `word`, the first of several, if it is more than four fifths alike. -/
def closest? (word : String) (words : List String) : Option String :=
  let better (best : Option (String × (Nat × Nat))) (other : String) :=
    let (part, whole) := similarity word.toList other.toList
    if 5 * part ≤ 4 * whole then best
    else
      match best with
      | none => some (other, (part, whole))
      | some (_, (p, w)) => if p * whole < part * w then some (other, (part, whole)) else best
  (words.foldl better none).map (·.1)

end HybridQuery
