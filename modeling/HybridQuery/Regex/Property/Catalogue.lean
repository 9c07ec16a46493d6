import HybridQuery.Unicode.CodeSet

/-!
# Catalogues

A catalogue lists sets of characters with the names they go by. Names are written in small
letters without hyphens, blanks and underscores.
-/

namespace HybridQuery.Regex

/-- Sets of characters: for each one its names, separated by blanks, and its ranges. -/
abbrev Catalogue := List (String × String)

/-- The set with this name. -/
def Catalogue.find? (c : Catalogue) (name : String) : Option CodeSet :=
  (List.find? (fun entry => (wordList entry.1).contains name) c).map fun entry => .ofText entry.2

end HybridQuery.Regex
