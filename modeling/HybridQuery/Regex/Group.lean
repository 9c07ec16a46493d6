import HybridQuery.Regex.Mode

/-!
# Groups

What an opening parenthesis begins: a group whose text is kept, with or without a name, a group
whose text is not, or flags for the rest of the group around.
-/

namespace HybridQuery.Regex

/-! ## Flags -/

/-- The flags as far as they are read: those seen, and whether they are negated from here on. -/
structure Flags where
  seen : List Char := []
  negated : Bool := false
  mode : Mode

/-- The mode with one flag set or taken back. -/
def Mode.setFlag? (m : Mode) (on : Bool) : Char → Option Mode
  | 'x' => some { m with spaced := on }
  | 'u' => some { m with unicode := on }
  | 'i' => some { m with caseless := on }
  | 'm' => some { m with multiline := on }
  | 's' => some { m with dotAll := on }
  | 'U' => some { m with reluctant := on }
  | 'R' => some { m with returns := on }
  | _ => none

/-- A flag for what follows. -/
def Flags.set (f : Flags) (c : Char) : Except Fault Flags :=
  if f.seen.contains c then .error .repeatedFlag
  else
    match f.mode.setFlag? (!f.negated) c with
    | some mode => .ok { f with seen := c :: f.seen, mode := mode }
    | none => .error .unknownFlag

/-- Flags up to the colon or parenthesis that ends them, given the character before. -/
def readFlags (before : Char) (f : Flags) : List Char → Result (Flags × List Char)
  | [] => .error .unfinishedFlags
  | c :: rest =>
    if c = ':' ∨ c = ')' then
      if before = '-' then .error .danglingNegation else .ok (f, c :: rest)
    else if c = '-' then
      if f.negated then .error .repeatedFlag
      else readFlags c { f with negated := true } rest
    else
      match f.set c with
      | .ok f => readFlags c f rest
      | .error e => .error e

/-! ## Names -/

/-- Characters of a group's name. -/
def isNameChar (first : Bool) (c : Char) : Bool :=
  decide (c = '_') || Unicode.letters.contains c ||
    (!first && (Unicode.numbers.contains c || decide (c ∈ ['.', '[', ']'])))

/-- The groups so far whose texts are kept. -/
structure Groups where
  count : Nat := 0
  names : List String := []

/-- The name of a group up to the closing bracket, which no other group may have. -/
def readName (groups : Groups) (text : List Char) : Result (String × List Char) :=
  let name := text.takeWhile (· ≠ '>')
  match name, text.dropWhile (· ≠ '>') with
  | _, [] => .error .invalidName
  | [], _ => .error .invalidName
  | first :: more, _ :: rest =>
    if !(isNameChar true first && more.all (isNameChar false)) then .error .invalidName
    else if groups.names.contains (String.ofList name) then .error .repeatedName
    else .ok (String.ofList name, rest)

/-! ## Openings -/

/-- What an opening parenthesis begins. -/
inductive Opening where
  /-- Flags for the rest of the group around. -/
  | setting (mode : Mode)
  /-- A group, with a number if its text is kept. -/
  | group (number : Option Nat) (mode : Mode) (groups : Groups)

/-- What follows an opening parenthesis. -/
def readGroup (m : Mode) (groups : Groups) (text : List Char) :
    Result (Opening × List Char) :=
  let number := groups.count + 1
  let named (text : List Char) : Result (Opening × List Char) := do
    let (name, rest) ← readName groups text
    .ok (.group (some number) m ⟨number, name :: groups.names⟩, rest)
  match m.skip text with
  | '?' :: '=' :: _ => .error .lookAround
  | '?' :: '!' :: _ => .error .lookAround
  | '?' :: '<' :: '=' :: _ => .error .lookAround
  | '?' :: '<' :: '!' :: _ => .error .lookAround
  | '?' :: 'P' :: '<' :: rest => named rest
  | '?' :: '<' :: rest => named rest
  | '?' :: [] => .error .unclosedGroup
  | '?' :: rest => do
    let (flags, rest) ← readFlags '?' { mode := m } rest
    match rest with
    | ')' :: rest =>
      if flags.seen.isEmpty then .error .missingOperand else .ok (.setting flags.mode, rest)
    | rest => .ok (.group none flags.mode groups, rest.drop 1)
  | text => .ok (.group (some number) m { groups with count := number }, text)

end HybridQuery.Regex
