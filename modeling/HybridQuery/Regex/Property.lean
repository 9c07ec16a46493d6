import HybridQuery.Regex.Property.Age
import HybridQuery.Regex.Property.Boundary

/-!
# Properties of characters

The names by which an expression can ask for a property of characters. Case, blanks, hyphens
and underscores in a name do not count, nor does a leading `is`.
-/

namespace HybridQuery.Regex

/-- The characters of a name that count, in small letters. -/
def plainChars (name : List Char) : List Char :=
  (name.filter fun c => decide (c.toNat < 128) && !(" _-".toList.contains c)).map Char.toLower

/-- What counts of a name. A leading `is` does, if nothing but a `c` is left without it. -/
def plainName (name : List Char) : String :=
  if (name.take 2).map Char.toLower = ['i', 's'] then
    let rest := plainChars (name.drop 2)
    if rest = ['c'] then "isc" else String.ofList rest
  else String.ofList (plainChars name)

/-- The part before the first occurrence of `mark` and the part after it. -/
def splitAtFirst? (mark : List Char) : List Char → Option (List Char × List Char)
  | [] => none
  | c :: rest =>
    if mark.isPrefixOf (c :: rest) then some ([], (c :: rest).drop mark.length)
    else (splitAtFirst? mark rest).map fun (before, after) => (c :: before, after)

/-- The characters with a property, given by its name alone. -/
def named? (name : List Char) : Option CodeSet :=
  let plain := plainName name
  (having? plain).or ((category? plain).or (script? plain))

/-- The characters with a property, given by the name of what is asked for and its value. -/
def valued? (name value : List Char) : Option CodeSet :=
  let plain := plainName value
  match plainName name with
  | "gc" | "generalcategory" => category? plain
  | "sc" | "script" => script? plain
  | "scx" | "scriptextensions" => usedInScript? plain
  | "age" => age? plain
  | "gcb" | "graphemeclusterbreak" => graphemeClass? plain
  | "wb" | "wordbreak" => wordClass? plain
  | "sb" | "sentencebreak" => sentenceClass? plain
  | _ => none

/-- The characters that are asked for by what stands between the braces of a property. Between
name and value stands the first `!=` or, for lack of it, the first `:` or `=`. What is negated
is decided by the letter before the braces alone. -/
def property? (text : List Char) : Option CodeSet :=
  match (splitAtFirst? ['!', '='] text).or
      ((splitAtFirst? [':'] text).or (splitAtFirst? ['='] text)) with
  | some (name, value) => valued? name value
  | none => named? text

/-! ## Digits and words -/

def digits : CodeSet :=
  inCategories "nd"

/-- Characters of words. -/
def wordChars : CodeSet :=
  alphabetic ∪ inCategories "mn mc me nd pc" ∪ listed "joinc"

end HybridQuery.Regex
