/-!
# Words of a list

Tables are written as words with blanks and line ends between them.
-/

namespace HybridQuery

/-- The words of a text, of which the one at hand is read as far as `word`, in reverse. -/
def wordsAfter (word : List Char) : List Char → List (List Char)
  | [] => if word.isEmpty then [] else [word.reverse]
  | c :: rest =>
    if c = ' ' ∨ c = '\n' then
      if word.isEmpty then wordsAfter [] rest else word.reverse :: wordsAfter [] rest
    else wordsAfter (c :: word) rest

/-- The words of a text. -/
def wordList (text : String) : List String :=
  (wordsAfter [] text.toList).map String.ofList

end HybridQuery
