import HybridQuery.Unicode.CodeSet

/-!
# Characters in bytes

UTF-8 writes a character in one to four bytes. A range of characters is not a range of byte
sequences, but it falls into pieces that are: within a piece every byte has a range of its own,
whatever the other bytes are (`sequences`).
-/

namespace HybridQuery.Regex.Utf8

/-- The bytes of the character with this number. -/
def encode (n : Nat) : List Nat :=
  if n < 0x80 then [n]
  else if n < 0x800 then [0xC0 + n / 0x40, 0x80 + n % 0x40]
  else if n < 0x10000 then [0xE0 + n / 0x1000, 0x80 + n / 0x40 % 0x40, 0x80 + n % 0x40]
  else
    [0xF0 + n / 0x40000, 0x80 + n / 0x1000 % 0x40, 0x80 + n / 0x40 % 0x40, 0x80 + n % 0x40]

/-- The number of the character that these bytes are, if they are those of one character and no
more. -/
def decode? : List Nat → Option Nat
  | [a] => if a < 0x80 then some a else none
  | [a, b] => if 0xC0 ≤ a ∧ a < 0xE0 then some ((a - 0xC0) * 0x40 + (b - 0x80)) else none
  | [a, b, c] =>
    if 0xE0 ≤ a ∧ a < 0xF0 then some ((a - 0xE0) * 0x1000 + (b - 0x80) * 0x40 + (c - 0x80))
    else none
  | [a, b, c, d] =>
    if 0xF0 ≤ a then
      some ((a - 0xF0) * 0x40000 + (b - 0x80) * 0x1000 + (c - 0x80) * 0x40 + (d - 0x80))
    else none
  | _ => none

/-- The bytes from the first to the second. -/
abbrev ByteRange := Nat × Nat

/-- The part up to `last` and the part after it. -/
def cutAfter (last : Nat) (range : Nat × Nat) : List (Nat × Nat) :=
  if range.1 ≤ last ∧ last < range.2 then [(range.1, last), (last + 1, range.2)] else [range]

/-- The parts before and after the numbers that stand for no character. -/
def cutSurrogates (range : Nat × Nat) : List (Nat × Nat) :=
  if range.1 < 0xE000 ∧ 0xD7FF < range.2 then
    [(range.1, 0xD7FF), (0xE000, range.2)].filter fun part => decide (part.1 ≤ part.2)
  else [range]

/-- The incomplete blocks of `size` characters at both ends, and the complete ones between. -/
def cutBlocks (size : Nat) (range : Nat × Nat) : List (Nat × Nat) :=
  let first := range.1 / size
  let last := range.2 / size
  if first = last then [range]
  else
    let low := if range.1 % size = 0 then range.1 else (first + 1) * size
    let high := if range.2 % size = size - 1 then range.2 + 1 else last * size
    (if range.1 < low then [(range.1, low - 1)] else []) ++
      (if low < high then [(low, high - 1)] else []) ++
      (if high ≤ range.2 then [(high, range.2)] else [])

/-- The parts of a range with characters of the same number of bytes. -/
def sameLengths (range : Nat × Nat) : List (Nat × Nat) :=
  (((cutSurrogates range).flatMap (cutAfter 0x7F)).flatMap (cutAfter 0x7FF)).flatMap
    (cutAfter 0xFFFF)

/-- The parts of a range in which every byte varies by itself. -/
def pieces (range : Nat × Nat) : List (Nat × Nat) :=
  (sameLengths range).flatMap fun part =>
    if part.2 ≤ 0x7F then [part]
    else (((cutBlocks 0x40 part).flatMap (cutBlocks 0x1000)).flatMap (cutBlocks 0x40000))

/-- The sequences of byte ranges for the characters of a range. -/
def sequences (range : Nat × Nat) : List (List ByteRange) :=
  (pieces range).map fun part => (encode part.1).zip (encode part.2)

end HybridQuery.Regex.Utf8
