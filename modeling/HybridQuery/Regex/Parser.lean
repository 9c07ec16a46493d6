import HybridQuery.Regex.Automaton
import HybridQuery.Regex.Class
import HybridQuery.Regex.Group
import HybridQuery.Regex.Tree

/-!
# Reading expressions

`parse` reads a regular expression and refuses what is none: groups and classes that are not
closed, repetitions of nothing, unknown escapes and flags, and everything that would need more
than an automaton, such as references back and conditions on the text around. What is read
is then checked for its depth and for the size of its automata.
-/

namespace HybridQuery.Regex

/-! ## Repetitions -/

/-- A decimal number with blanks around it. Its digits can stand apart where blanks do not
count. -/
def readNumber (m : Mode) (text : List Char) : Result (Option Nat × List Char) :=
  let isBlank := Unicode.blanks.contains
  match m.gather Char.isDigit (text.dropWhile isBlank) with
  | ([], rest) => .ok (none, rest.dropWhile isBlank)
  | (digits, rest) =>
    let n := digits.foldl (fun n c => 10 * n + (c.toNat - 48)) 0
    if n < 0x100000000 then .ok (some n, rest.dropWhile isBlank) else .error .oversizedNumber

/-- The bounds of a repetition, given what follows the opening brace. -/
def readBounds (m : Mode) (text : List Char) : Result ((Nat × Option Nat) × List Char) := do
  let (least, rest) ← readNumber m (m.skip text)
  match least, rest with
  | _, [] => .error .unclosedCount
  | none, _ => .error .missingNumber
  | some least, ',' :: rest =>
    match m.skip rest with
    | [] => .error .unclosedCount
    | '\x7d' :: rest => .ok ((least, none), rest)
    | rest => do
      let (most, rest) ← readNumber m rest
      match most, rest with
      | some most, '\x7d' :: rest =>
        if least ≤ most then .ok ((least, some most), rest) else .error .invertedCount
      | none, _ => .error .missingNumber
      | _, _ => .error .unclosedCount
  | some least, '\x7d' :: rest => .ok ((least, some least), rest)
  | _, _ => .error .unclosedCount

/-- Whether a repetition is greedy, and the text after the question mark that changes that. -/
def readGreed (m : Mode) : List Char → Bool × List Char
  | '?' :: rest => (m.reluctant, rest)
  | rest => (!m.reluctant, rest)

/-- The items with the last one repeated. It comes first in the list. -/
def repeatLast (bounds : Nat × Option Nat) (greedy : Bool) : List Tree → Except Fault (List Tree)
  | [] => .error .missingOperand
  | .setting :: _ => .error .missingOperand
  | item :: rest => .ok (.repeated bounds.1 bounds.2 greedy item :: rest)

/-! ## Characters and places -/

/-- The tree for a character. Without Unicode a byte that is no character by itself is
refused. -/
def charTree (m : Mode) (c : Char) (byte : Bool) : Except Fault Tree :=
  if byte && !m.unicode && decide (127 < c.toNat) then .error .notUtf8
  else .ok (.leaf (m.char c) 0)

/-- A character or a place outside of classes. -/
def readPrimitive (m : Mode) : List Char → Result (Tree × List Char)
  | [] => .error .missingOperand
  | '.' :: rest => do
    let chars ← m.dot
    .ok (.leaf (m.set chars) 0, rest)
  | '^' :: rest =>
    .ok (.leaf (.look (if m.multiline then .lineStart m.returns else .textStart)) 0, rest)
  | '$' :: rest =>
    .ok (.leaf (.look (if m.multiline then .lineEnd m.returns else .textEnd)) 0, rest)
  | '\\' :: rest => do
    let (atom, rest) ← readEscape m rest
    match atom with
    | .char c byte => do
      let tree ← charTree m c byte
      .ok (tree, rest)
    | .set chars => .ok (.leaf (m.set chars) 0, rest)
    | .look look => .ok (.leaf (.look look) 0, rest)
  | c :: rest => do
    let tree ← charTree m c false
    .ok (tree, rest)

/-! ## Expressions -/

/-- The branches and the items of the last one, the last ones first, as a tree. -/
def finish (branches items : List Tree) : Tree :=
  .ofBranches (Tree.ofItems items.reverse :: branches).reverse

/-- An expression up to the end of the text or a parenthesis that is not opened in it, with
the groups so far. `branches` and `items` are read already. Every step reads a character, so a
number of steps above the length of the text is enough. -/
def readTree : Nat → Mode → Groups → List Tree → List Tree → List Char →
    Result ((Tree × Groups) × List Char)
  | 0, _, _, _, _, _ => .error .unclosedGroup
  | n + 1, m, groups, branches, items, text =>
    match m.skip text with
    | [] => .ok ((finish branches items, groups), [])
    | ')' :: rest => .ok ((finish branches items, groups), ')' :: rest)
    | '|' :: rest => readTree n m groups (.ofItems items.reverse :: branches) [] rest
    | '(' :: rest => do
      let (opening, rest) ← readGroup m groups rest
      match opening with
      | .setting mode => readTree n mode groups branches (.setting :: items) rest
      | .group number mode groups => do
        let ((inner, groups), rest) ← readTree n mode groups [] [] rest
        match rest with
        | [] => .error .unclosedGroup
        | _ :: rest => readTree n m groups branches (.group number inner :: items) rest
    | '[' :: rest => do
      let (part, rest) ← readBrackets m n rest
      readTree n m groups branches (.leaf (m.set part.chars) part.depth :: items) rest
    | '?' :: rest => do
      let (greedy, rest) := readGreed m rest
      let items ← repeatLast (0, some 1) greedy items
      readTree n m groups branches items rest
    | '*' :: rest => do
      let (greedy, rest) := readGreed m rest
      let items ← repeatLast (0, none) greedy items
      readTree n m groups branches items rest
    | '+' :: rest => do
      let (greedy, rest) := readGreed m rest
      let items ← repeatLast (1, none) greedy items
      readTree n m groups branches items rest
    | '\x7b' :: rest => do
      let (bounds, rest) ← readBounds m rest
      let (greedy, rest) := readGreed m (m.skip rest)
      let items ← repeatLast bounds greedy items
      readTree n m groups branches items rest
    | text => do
      let (item, rest) ← readPrimitive m text
      readTree n m groups branches (item :: items) rest

/-- Reads a whole text as an expression. -/
def parse (text : List Char) : Except Fault Expr := do
  let ((tree, _), rest) ← readTree (text.length + 1) {} {} [] [] text
  match rest with
  | [] => do
    tree.check
    let e := tree.simplify
    measure e
    .ok e
  | _ => .error .unopenedGroup

end HybridQuery.Regex
