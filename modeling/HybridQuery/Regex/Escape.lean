import HybridQuery.Regex.Mode
import HybridQuery.Regex.Property

/-!
# Escapes

What can follow a backslash: characters that would mean something else, characters by their
number, sets with a name, and conditions on a place.
-/

namespace HybridQuery.Regex

/-- What an escape stands for. -/
inductive Atom where
  /-- A character, and whether it is given as a single byte. -/
  | char (c : Char) (byte : Bool)
  | set (chars : CodeSet)
  | look (look : Look)

/-- Characters that an escape takes for themselves: all of ASCII but letters, digits and
angle brackets. -/
def isPlainEscape (c : Char) : Bool :=
  decide (c.toNat < 128) && !c.isAlphanum && decide (c ≠ '<') && decide (c ≠ '>')

/-! ## Characters by their number -/

def isHexDigit (c : Char) : Bool :=
  c.isDigit || ('a' ≤ c && c ≤ 'f') || ('A' ≤ c && c ≤ 'F')

/-- The character with this number. -/
def charOfDigits (digits : List Char) : Except Fault Char :=
  let n := CodeSet.hexNumber (digits.map Char.toUpper)
  if n.isValidChar then .ok (Char.ofNat n) else .error .invalidCharacter

/-- `count` hexadecimal digits. -/
def readDigits (m : Mode) : Nat → List Char → Result (List Char × List Char)
  | 0, text => .ok ([], text)
  | _ + 1, [] => .error .unfinishedEscape
  | n + 1, c :: rest =>
    if isHexDigit c then do
      let (digits, rest) ← readDigits m n (m.skip rest)
      .ok (c :: digits, rest)
    else .error .invalidCharacter

/-- A character by its number, with `count` digits or any number of them in braces. -/
def readNumbered (m : Mode) (count : Nat) (text : List Char) : Result (Atom × List Char) :=
  match m.skip text with
  | [] => .error .unfinishedEscape
  | '\x7b' :: rest =>
    match m.gather isHexDigit (m.skip rest) with
    | (_, []) => .error .unfinishedEscape
    | ([], _) => .error .invalidCharacter
    | (digits, '\x7d' :: rest) => do
      let c ← charOfDigits digits
      .ok (.char c false, rest)
    | _ => .error .invalidCharacter
  | text => do
    let (digits, rest) ← readDigits m count text
    let c ← charOfDigits digits
    .ok (.char c (decide (count = 2)), rest)

/-! ## Sets -/

/-- The characters of a property, or all others. -/
def propertySet (m : Mode) (negated : Bool) (text : List Char) : Except Fault CodeSet :=
  if !m.unicode then .error .propertyWithoutUnicode
  else
    match property? text with
    | none => .error .unknownProperty
    | some chars => m.negate negated (m.fold chars)

/-- The characters of a property with a name of one letter, or all others. -/
def letterSet (m : Mode) (negated : Bool) (letter : Char) : Except Fault CodeSet :=
  if !m.unicode then .error .propertyWithoutUnicode
  else
    match named? [letter] with
    | none => .error .unknownProperty
    | some chars => m.negate negated (m.fold chars)

/-- A property, by one letter or by what stands in braces. -/
def readProperty (m : Mode) (negated : Bool) (text : List Char) : Result (Atom × List Char) :=
  match m.skip text with
  | [] => .error .unfinishedEscape
  | '\x7b' :: rest =>
    match m.gather (· ≠ '\x7d') (m.skip rest) with
    | (_, []) => .error .unfinishedEscape
    | (name, _ :: rest) => do
      let chars ← propertySet m negated name
      .ok (.set chars, rest)
  | c :: rest => do
    let chars ← letterSet m negated c
    .ok (.set chars, rest)

/-- Digits, blanks or characters of words, by their letter. -/
def letterClass (m : Mode) (letter : Char) : CodeSet :=
  match letter, m.unicode with
  | 'd', true => digits
  | 's', true => Unicode.blanks
  | _, true => wordChars
  | 'd', false => .ofText "30-39"
  | 's', false => .ofText "9-D 20"
  | _, false => .ofText "30-39 41-5A 5F 61-7A"

/-! ## Places -/

/-- A boundary of words, given what follows its letter. Its kind can stand in braces. Braces
that begin with anything but a letter or a hyphen are left as a count. -/
def readBoundary (m : Mode) (text : List Char) : Result (Atom × List Char) :=
  let isName := fun c : Char => c.isAlpha || decide (c = '-')
  let plain : Result (Atom × List Char) := .ok (.look (.word .edge m.unicode), text)
  match text with
  | '\x7b' :: rest =>
    match m.skip rest with
    | [] => .error .unknownBoundary
    | c :: more =>
      if isName c then
        match m.gather isName (c :: more) with
        | (name, '\x7d' :: after) =>
          match String.ofList name with
          | "start" => .ok (.look (.word .start m.unicode), after)
          | "end" => .ok (.look (.word .finish m.unicode), after)
          | "start-half" => .ok (.look (.word .startHalf m.unicode), after)
          | "end-half" => .ok (.look (.word .finishHalf m.unicode), after)
          | _ => .error .unknownBoundary
        | _ => .error .unknownBoundary
      else plain
  | _ => plain

/-- What follows a backslash. -/
def readEscape (m : Mode) : List Char → Result (Atom × List Char)
  | [] => .error .unfinishedEscape
  | c :: rest =>
    if c.isDigit then .error .backReference
    else if isPlainEscape c then .ok (.char c false, rest)
    else
      match c with
      | 'x' => readNumbered m 2 rest
      | 'u' => readNumbered m 4 rest
      | 'U' => readNumbered m 8 rest
      | 'p' => readProperty m false rest
      | 'P' => readProperty m true rest
      | 'd' | 's' | 'w' => .ok (.set (letterClass m c), rest)
      | 'D' | 'S' | 'W' => do
        let chars ← m.negate true (letterClass m c.toLower)
        .ok (.set chars, rest)
      | 'a' => .ok (.char '\x07' false, rest)
      | 'f' => .ok (.char '\x0c' false, rest)
      | 't' => .ok (.char '\t' false, rest)
      | 'n' => .ok (.char '\n' false, rest)
      | 'r' => .ok (.char '\r' false, rest)
      | 'v' => .ok (.char '\x0b' false, rest)
      | 'A' => .ok (.look .textStart, rest)
      | 'z' => .ok (.look .textEnd, rest)
      | 'B' => .ok (.look (.word .inside m.unicode), rest)
      | '<' => .ok (.look (.word .start m.unicode), rest)
      | '>' => .ok (.look (.word .finish m.unicode), rest)
      | 'b' => readBoundary m rest
      | _ => .error .unknownEscape

end HybridQuery.Regex
