import HybridQuery.Unicode.Case
import HybridQuery.Unicode.Category

/-!
# Snake case

The snake case of a name is its words in lower case, joined by underscores. Underscores
separate words. Words also end where the shape of the characters changes: between a lower and
an upper case letter, between letters with case and digits in either order, and before the
last capital of several when a lower case letter follows (`HTTPServer` is `HTTP` and
`Server`). The unit is what a reader takes for one character, marks included.
-/

namespace HybridQuery

/-- `c` and the character before which it stands make up one. -/
def belongTogether (c d : Char) : Bool :=
  Unicode.joining.contains d || Unicode.leading.contains c

/-- A text cut into what a reader takes for characters. -/
def clusters : List Char → List (List Char)
  | [] => []
  | c :: rest =>
    match clusters rest with
    | (d :: more) :: others =>
      if belongTogether c d then (c :: d :: more) :: others else [c] :: (d :: more) :: others
    | others => [c] :: others

/-- What matters of a character for the end of a word. -/
inductive Shape where
  | upper
  | lower
  | digit
  | other
  deriving DecidableEq, Repr

/-- Digits are ASCII ones. A letter is of the case that leaves it as it is, if the two cases
differ. -/
def shape (cluster : List Char) : Shape :=
  if cluster.all Char.isDigit then .digit
  else
    match cluster.any Unicode.changesInLower, cluster.any Unicode.changesInUpper with
    | true, false => .upper
    | false, true => .lower
    | _, _ => .other

/-- A word ends between characters of the first two shapes, when one of the third follows. -/
def endsBetween : Shape → Shape → Option Shape → Bool
  | .lower, .upper, _ => true
  | .upper, .digit, _ => true
  | .digit, .upper, _ => true
  | .lower, .digit, _ => true
  | .digit, .lower, _ => true
  | .upper, .upper, some .lower => true
  | _, _, _ => false

/-- A word ends after a character with `rest` behind it. -/
def endsAfter (cluster : List Char) : List (List Char) → Bool
  | [] => false
  | next :: rest => endsBetween (shape cluster) (shape next) (rest.head?.map shape)

/-- The words of a text, of which the one at hand is read as far as `word`. -/
def wordsFrom (word : List Char) : List (List Char) → List (List Char)
  | [] => [word]
  | cluster :: rest =>
    if cluster = ['_'] then word :: wordsFrom [] rest
    else if endsAfter cluster rest then (word ++ cluster) :: wordsFrom [] rest
    else wordsFrom (word ++ cluster) rest

/-- The words of a text, none of them empty. -/
def words (text : List Char) : List (List Char) :=
  (wordsFrom [] (clusters text)).filter (!·.isEmpty)

/-- The snake case of a name. -/
def snakeCase (name : String) : String :=
  "_".intercalate ((words name.toList).map fun word => String.ofList (Unicode.lower word))

end HybridQuery
