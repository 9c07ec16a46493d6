import HybridQuery.Text.Words

/-!
# Sets of characters

A `CodeSet` is a set of characters given by ranges of their numbers. The tables of this
library write them in hexadecimal, as in `30-39 41-5A 5F`. The operations take ranges that are
in order and apart, and give such again.
-/

namespace HybridQuery

/-- The characters whose numbers lie in one of the ranges, ends included. -/
structure CodeSet where
  ranges : List (Nat × Nat)
  deriving DecidableEq, Repr

namespace CodeSet

/-- The set has the character with this number. -/
def has (s : CodeSet) (n : Nat) : Bool :=
  s.ranges.any fun range => decide (range.1 ≤ n) && decide (n ≤ range.2)

def contains (s : CodeSet) (c : Char) : Bool :=
  s.has c.toNat

/-- The value of a hexadecimal digit in capitals. -/
def hexDigit (c : Char) : Nat :=
  if c.isDigit then c.toNat - 48 else c.toNat - 55

/-- The value of hexadecimal digits. -/
def hexNumber (digits : List Char) : Nat :=
  digits.foldl (fun n c => 16 * n + hexDigit c) 0

/-- A range with a hyphen between its ends, or a single number. -/
def readRange (text : List Char) : Nat × Nat :=
  let low := text.takeWhile (· ≠ '-')
  match text.dropWhile (· ≠ '-') with
  | [] => (hexNumber low, hexNumber low)
  | _ :: high => (hexNumber low, hexNumber high)

/-- The set that is written so. -/
def ofText (text : String) : CodeSet :=
  ⟨(wordList text).map fun word => readRange word.toList⟩

/-! ## Operations -/

/-- No character. -/
def empty : CodeSet :=
  ⟨[]⟩

/-- Every character. -/
def all : CodeSet :=
  ⟨[(0, 0x10FFFF)]⟩

/-- The characters of one byte. -/
def ascii : CodeSet :=
  ⟨[(0, 0x7F)]⟩

/-- One character. -/
def single (c : Char) : CodeSet :=
  ⟨[(c.toNat, c.toNat)]⟩

def isEmpty (s : CodeSet) : Bool :=
  s.ranges.isEmpty

/-- The ranges after `low` to `high`, of which those that overlap or touch are joined. -/
def joinAfter (low high : Nat) : List (Nat × Nat) → List (Nat × Nat)
  | [] => [(low, high)]
  | range :: rest =>
    if range.1 ≤ high + 1 then joinAfter low (max high range.2) rest
    else (low, high) :: joinAfter range.1 range.2 rest

/-- The characters of some ranges in any order. -/
def ofRanges (ranges : List (Nat × Nat)) : CodeSet :=
  match ranges.mergeSort fun a b => decide (a.1 ≤ b.1) with
  | [] => empty
  | range :: rest => ⟨joinAfter range.1 range.2 rest⟩

/-- What is in either set. -/
def union (s t : CodeSet) : CodeSet :=
  ofRanges (s.ranges ++ t.ranges)

/-- What is in two ranges. -/
def overlap? (a b : Nat × Nat) : Option (Nat × Nat) :=
  let low := max a.1 b.1
  let high := min a.2 b.2
  if low ≤ high then some (low, high) else none

/-- What is in both sets. -/
def inter (s t : CodeSet) : CodeSet :=
  ⟨s.ranges.flatMap fun range => t.ranges.filterMap (overlap? range)⟩

/-- The number of the next character. None has a number of D800 to DFFF. -/
def next (n : Nat) : Nat :=
  if n = 0xD7FF then 0xE000 else n + 1

/-- The number of the character before. -/
def previous (n : Nat) : Nat :=
  if n = 0xE000 then 0xD7FF else n - 1

/-- What is left of a range without the others. -/
def without (low high : Nat) : List (Nat × Nat) → List (Nat × Nat)
  | [] => [(low, high)]
  | range :: rest =>
    if range.2 < low then without low high rest
    else if high < range.1 then [(low, high)]
    else
      let before := if low < range.1 then [(low, previous range.1)] else []
      if range.2 < high then before ++ without (next range.2) high rest else before

/-- What is in the first set only. -/
def diff (s t : CodeSet) : CodeSet :=
  ⟨s.ranges.flatMap fun range => without range.1 range.2 t.ranges⟩

/-- The range between two characters, whichever comes first. -/
def between (a b : Nat) : Nat × Nat :=
  if a ≤ b then (a, b) else (b, a)

/-- The gaps that follow a range which ends with `n`. -/
def gapsAfter (n : Nat) : List (Nat × Nat) → List (Nat × Nat)
  | [] => if n < 0x10FFFF then [(next n, 0x10FFFF)] else []
  | range :: rest => between (next n) (previous range.1) :: gapsAfter range.2 rest

/-- What is not in a set. -/
def compl (s : CodeSet) : CodeSet :=
  match s.ranges with
  | [] => all
  | range :: rest =>
    ⟨(if 0 < range.1 then [(0, previous range.1)] else []) ++ gapsAfter range.2 rest⟩

instance : Union CodeSet := ⟨union⟩
instance : Inter CodeSet := ⟨inter⟩
instance : SDiff CodeSet := ⟨diff⟩

/-- What is in one of the sets but not in both. -/
def symmDiff (s t : CodeSet) : CodeSet :=
  (s ∪ t) \ (s ∩ t)

/-- Only characters of one byte. -/
def isAscii (s : CodeSet) : Bool :=
  s.ranges.all fun range => decide (range.2 ≤ 0x7F)

end CodeSet

end HybridQuery
