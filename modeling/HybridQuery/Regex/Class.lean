import HybridQuery.Regex.Escape

/-!
# Classes

A class stands in brackets: characters, ranges, escapes, named classes and further classes,
which are united, and the three operations `&&`, `--` and `~~` between such unions. A hyphen
at either end of a class is a character, and so is a bracket right after the opening one.
-/

namespace HybridQuery.Regex

/-- A part of a class: its characters, and how deep it is nested. -/
structure Part where
  chars : CodeSet
  depth : Nat

namespace Part

/-- The union of parts. -/
def union (parts : List Part) : Part :=
  match parts with
  | [] => ⟨.empty, 0⟩
  | [part] => part
  | parts =>
    ⟨.ofRanges (parts.flatMap (·.chars.ranges)),
      parts.foldl (fun n part => max n part.depth) 0 + 1⟩

/-- A single character. -/
def ofChar (c : Char) : Part :=
  ⟨.single c, 0⟩

end Part

/-! ## Operations -/

/-- The operations between parts of a class. -/
inductive Operation where
  | intersection
  | difference
  | symmetricDifference
  deriving DecidableEq, Repr

/-- The operation on two sets. -/
def Operation.apply : Operation → CodeSet → CodeSet → CodeSet
  | .intersection, s, t => s ∩ t
  | .difference, s, t => s \ t
  | .symmetricDifference, s, t => s.symmDiff t

/-- What stands before the parts that are being read: nothing, or an operand and what is done
with it. -/
abbrev Pending := Option (Part × Operation)

/-- The operation that is pending, done with a second operand. -/
def finishOperation (m : Mode) (pending : Pending) (right : Part) : Part :=
  match pending with
  | none => right
  | some (left, operation) =>
    ⟨operation.apply (m.fold left.chars) (m.fold right.chars), max left.depth right.depth + 1⟩

/-! ## Named classes -/

/-- The classes that have a name. -/
def namedClasses : List (String × String) :=
  [("alnum", "30-39 41-5A 61-7A"), ("alpha", "41-5A 61-7A"), ("ascii", "0-7F"),
   ("blank", "9 20"), ("cntrl", "0-1F 7F"), ("digit", "30-39"), ("graph", "21-7E"),
   ("lower", "61-7A"), ("print", "20-7E"), ("punct", "21-2F 3A-40 5B-60 7B-7E"),
   ("space", "9-D 20"), ("upper", "41-5A"), ("word", "30-39 41-5A 5F 61-7A"),
   ("xdigit", "30-39 41-46 61-66")]

/-- A named class, given what follows its opening bracket: whether it is negated, its
characters and the rest of the text. -/
def readNamed? : List Char → Option ((Bool × CodeSet) × List Char)
  | ':' :: rest =>
    let (negated, rest) := match rest with
      | '^' :: rest => (true, rest)
      | rest => (false, rest)
    match rest.dropWhile (· ≠ ':') with
    | ':' :: ']' :: after =>
      match namedClasses.lookup (String.ofList (rest.takeWhile (· ≠ ':'))) with
      | some ranges => some ((negated, .ofText ranges), after)
      | none => none
    | _ => none
  | _ => none

/-! ## Characters and ranges -/

/-- A character of a class. Without Unicode it has to be one of a single byte. -/
def classChar (m : Mode) (c : Char) : Except Fault Char :=
  if m.unicode || decide (c.toNat < 128) then .ok c else .error .notUtf8

/-- The part that an atom is. -/
def atomPart (m : Mode) : Atom → Except Fault Part
  | .char c _ => Part.ofChar <$> classChar m c
  | .set chars => .ok ⟨chars, 0⟩
  | .look _ => .error .escapeInClass

/-- One character or escape of a class. -/
def readItem (m : Mode) : List Char → Result (Atom × List Char)
  | [] => .error .unclosedClass
  | '\\' :: rest => readEscape m rest
  | c :: rest => .ok (.char c false, rest)

/-- The range from one character to another. -/
def rangePart (m : Mode) : Atom → Atom → Except Fault Part
  | .char low _, .char high _ => do
    let low ← classChar m low
    let high ← classChar m high
    if low ≤ high then .ok ⟨⟨[(low.toNat, high.toNat)]⟩, 0⟩ else .error .invertedRange
  | _, _ => .error .rangeWithoutLiteral

/-- A character, an escape or a range. A hyphen before a closing bracket or another hyphen is
none of a range. -/
def readRange (m : Mode) (text : List Char) : Result (Part × List Char) := do
  let (first, rest) ← readItem m text
  let single (rest : List Char) : Result (Part × List Char) := do
    let part ← atomPart m first
    .ok (part, rest)
  match m.skip rest with
  | [] => .error .unclosedClass
  | '-' :: after =>
    if m.peek after = some ']' ∨ m.peek after = some '-' then single ('-' :: after)
    else
      match m.skip after with
      | [] => .error .unclosedClass
      | after => do
        let (last, rest) ← readItem m after
        let part ← rangePart m first last
        .ok (part, rest)
  | rest => single rest

/-! ## Brackets -/

/-- The hyphens that a class begins with. -/
def readHyphens (m : Mode) (parts : List Part) (text : List Char) : List Part × List Char :=
  match m.gather (· = '-') text with
  | (hyphens, rest) => (hyphens.map Part.ofChar ++ parts, rest)

/-- What follows the opening bracket: whether the class is negated, and its first parts. -/
def readOpening (m : Mode) (text : List Char) : Result ((Bool × List Part) × List Char) :=
  let (negated, text) := match m.skip text with
    | '^' :: rest => (true, m.skip rest)
    | text => (false, text)
  match readHyphens m [] text with
  | (_, []) => .error .unclosedClass
  | ([], ']' :: rest) => .ok ((negated, [.ofChar ']']), rest)
  | (parts, rest) => .ok ((negated, parts), rest)

/-- The class in brackets of which these parts come last. -/
def closeClass (m : Mode) (negated : Bool) (pending : Pending) (parts : List Part) :
    Except Fault Part := do
  let inner := finishOperation m pending (Part.union parts)
  let chars ← m.negate negated (m.fold inner.chars)
  .ok ⟨chars, inner.depth + 1⟩

/-- The rest of a class of which some parts are read, after an operation that is pending. Every
step reads a character, so a number of steps above the length of the text is enough. -/
def readClass (m : Mode) :
    Nat → Bool → Pending → List Part → List Char → Result (Part × List Char)
  | 0, _, _, _, _ => .error .unclosedClass
  | n + 1, negated, pending, parts, text =>
    let operand (operation : Operation) : Pending :=
      some (finishOperation m pending (Part.union parts), operation)
    match m.skip text with
    | [] => .error .unclosedClass
    | ']' :: rest => do
      let part ← closeClass m negated pending parts
      .ok (part, rest)
    | '[' :: rest =>
      match readNamed? rest with
      | some ((inverted, chars), rest) => do
        let chars ← m.negate inverted (m.fold chars)
        readClass m n negated pending (⟨chars, 0⟩ :: parts) rest
      | none => do
        let ((inverted, first), rest) ← readOpening m rest
        let (part, rest) ← readClass m n inverted none first rest
        readClass m n negated pending (part :: parts) rest
    | '&' :: '&' :: rest => readClass m n negated (operand .intersection) [] rest
    | '-' :: '-' :: rest => readClass m n negated (operand .difference) [] rest
    | '~' :: '~' :: rest => readClass m n negated (operand .symmetricDifference) [] rest
    | text => do
      let (part, rest) ← readRange m text
      readClass m n negated pending (part :: parts) rest

/-- A class, given what follows its opening bracket and a number of steps above its length. -/
def readBrackets (m : Mode) (n : Nat) (text : List Char) : Result (Part × List Char) := do
  let ((negated, parts), rest) ← readOpening m text
  readClass m n negated none parts rest

end HybridQuery.Regex
