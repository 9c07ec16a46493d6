import HybridQuery.Unicode.Category

/-!
# Texts laid open

`inspectText` shows a text between double quotes with nothing hidden in it: quotes and
backslashes behind a backslash, line breaks and the like by a letter, and everything else
without a visible form by its number.
-/

namespace HybridQuery

/-- The number of a character in hexadecimal. -/
def numbered (c : Char) : List Char :=
  '\\' :: 'u' :: '\x7b' :: Nat.toDigits 16 c.toNat ++ ['\x7d']

/-- A character of a text laid open. -/
def inspectChar (c : Char) : List Char :=
  if c = '"' then ['\\', '"']
  else if c = '\\' then ['\\', '\\']
  else if c = '\n' then ['\\', 'n']
  else if c = '\r' then ['\\', 'r']
  else if c = '\t' then ['\\', 't']
  else if c = '\x00' then ['\\', '0']
  else if Unicode.hidden.contains c then numbered c
  else [c]

/-- A text laid open. -/
def inspectText (text : String) : String :=
  "\"" ++ String.ofList (text.toList.flatMap inspectChar) ++ "\""

end HybridQuery
