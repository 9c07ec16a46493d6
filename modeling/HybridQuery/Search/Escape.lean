import HybridQuery.Literal

/-!
# Values in the search syntax

A value becomes part of a search query as text. `escape` keeps a string from being read as
syntax: every reserved character gets a backslash in front, and double quotes, for which no
escape is reliable, are left out. `quotePhrase` puts a phrase between double quotes; none may
stand inside, nor may a backslash stand before the closing one. `renderLiteral` is the text
of a literal that a column is compared with.
-/

namespace HybridQuery

/-- The characters with a meaning in the search syntax. -/
def reserved : List Char :=
  ['"', ':', '*', '~', '?', '!', '%', '&', '(', ')', ',', '<', '>', '[', ']', '^', '\x7b', '\x7d',
    ' ', '\r', '\n', '\t', '\x0c']

/-- The text without its double quotes. -/
def withoutQuotes (text : List Char) : List Char :=
  text.filter (· ≠ '"')

/-- A character as it stands in a query: reserved ones behind a backslash. -/
def escapeChar (c : Char) : List Char :=
  if c ∈ reserved then ['\\', c] else [c]

/-- A string as it stands in a query. -/
def escapeChars (text : List Char) : List Char :=
  (withoutQuotes text).flatMap escapeChar

/-- A string as it stands in a query. -/
def escape (text : String) : String :=
  String.ofList (escapeChars text.toList)

theorem escapeChars_append (s t : List Char) :
    escapeChars (s ++ t) = escapeChars s ++ escapeChars t := by
  simp [escapeChars, withoutQuotes]

theorem toList_escape (text : String) : (escape text).toList = escapeChars text.toList := by
  simp [escape]

/-- What stands between the quotes of a phrase. -/
def phraseBody (phrase : List Char) : List Char :=
  dropTrailing '\\' (withoutQuotes phrase)

/-- A phrase between double quotes. -/
def quotePhrase (phrase : String) : String :=
  "\"" ++ String.ofList (phraseBody phrase.toList) ++ "\""

/-- A finite number as it stands in a query. -/
def renderNumber (x : Binary64) : Except Error String :=
  if x.isFinite then .ok x.text else .error (.invalidParameter (.notFinite x))

/-- The text of a literal that a column is compared with. -/
def renderLiteral : Literal → Except Error String
  | .string text => .ok (escape text)
  | .integer n => .ok (integerText n.toInt)
  | .float x => renderNumber x
  | .boolean true => .ok "true"
  | .boolean false => .ok "false"
  | .null => .ok "null"
  | .raw text => .ok text
  | .phrase phrase => .ok (quotePhrase phrase)
  | .pattern pattern => .error (.invalidParameter (.patternOutsideLike pattern.source))
  | .table name => .error (.invalidParameter (.tableAsValue name))
  | .dateTime t => escape <$> t.text

end HybridQuery
