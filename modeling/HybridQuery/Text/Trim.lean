/-!
# Trimming

Texts without a character at one of their ends.
-/

namespace HybridQuery

/-- The text without the `c`s at its end. -/
def dropTrailing (c : Char) (text : List Char) : List Char :=
  (text.reverse.dropWhile (· == c)).reverse

theorem mem_of_mem_dropTrailing {c d : Char} {text : List Char} (h : d ∈ dropTrailing c text) :
    d ∈ text :=
  List.mem_reverse.mp ((List.dropWhile_sublist _).mem (List.mem_reverse.mp h))

/-- The text without the `c`s at its two ends. -/
def trimBoth (c : Char) (text : List Char) : List Char :=
  dropTrailing c (text.dropWhile (· == c))

end HybridQuery
