import HybridQuery.Regex.Fault
import HybridQuery.Regex.Folding
import HybridQuery.Regex.Simplify
import HybridQuery.Unicode.Category

/-!
# How expressions are read

The flags that are set at a place of an expression, and what they mean for the characters
there. Where blanks are set to be ignored, blanks and comments can stand nearly everywhere; a
comment begins with `#` and ends with its line.
-/

namespace HybridQuery.Regex

/-- The flags that are set. -/
structure Mode where
  /-- Blanks and comments do not count. -/
  spaced : Bool := false
  /-- Characters are those of Unicode, not single bytes. -/
  unicode : Bool := true
  /-- Case does not count. -/
  caseless : Bool := false
  /-- Lines have a start and an end. -/
  multiline : Bool := false
  /-- A dot stands for line feeds too. -/
  dotAll : Bool := false
  /-- Repetitions are short by default and not long. -/
  reluctant : Bool := false
  /-- Lines end with carriage returns too. -/
  returns : Bool := false
  deriving DecidableEq, Repr

/-- Something read, together with the rest of the text, or a fault. -/
abbrev Result := Except Fault

/-! ## Blanks and comments -/

/-- The text without the blanks and comments that it begins with. -/
def skipBlanks (comment : Bool) : List Char → List Char
  | [] => []
  | c :: rest =>
    if comment then skipBlanks (decide (c ≠ '\n')) rest
    else if Unicode.blanks.contains c then skipBlanks false rest
    else if c = '#' then skipBlanks true rest
    else c :: rest

theorem length_skipBlanks_le (comment : Bool) (text : List Char) :
    (skipBlanks comment text).length ≤ text.length := by
  induction text generalizing comment with
  | nil => simp [skipBlanks]
  | cons c rest ih =>
    unfold skipBlanks
    split
    · exact Nat.le_succ_of_le (ih _)
    · split
      · exact Nat.le_succ_of_le (ih _)
      · split
        · exact Nat.le_succ_of_le (ih _)
        · exact Nat.le_refl _

namespace Mode

/-- The text from the next character that counts. -/
def skip (m : Mode) (text : List Char) : List Char :=
  if m.spaced then skipBlanks false text else text

theorem length_skip_le (m : Mode) (text : List Char) : (m.skip text).length ≤ text.length := by
  unfold skip
  split
  · exact length_skipBlanks_le _ _
  · exact Nat.le_refl _

/-- The characters up to the first that is none of those wanted, and the text from there. What
does not count is skipped after each of them. -/
def gather (m : Mode) (wanted : Char → Bool) : List Char → List Char × List Char
  | [] => ([], [])
  | c :: rest =>
    if wanted c then
      let (more, after) := m.gather wanted (m.skip rest)
      (c :: more, after)
    else ([], c :: rest)
termination_by text => text.length
decreasing_by
  have := m.length_skip_le rest
  simp only [List.length_cons]
  omega

/-- What a hyphen in a class is taken to stand before, given the text after it: the next
character that is no blank. One sign of a comment is passed over, but not the comment. -/
def peek (m : Mode) (text : List Char) : Option Char :=
  if m.spaced then
    let next := match text.dropWhile Unicode.blanks.contains with
      | '#' :: rest => (rest.dropWhile Unicode.blanks.contains).head?
      | rest => rest.head?
    next.or text.head?
  else text.head?

/-! ## Characters -/

/-- A set with all characters that differ from one of it in case, if case does not count. -/
def fold (m : Mode) (s : CodeSet) : CodeSet :=
  if !m.caseless then s
  else if m.unicode then closeUnder orbits s
  else closeUnder asciiOrbits s

/-- What is not in a set. Without Unicode that would include bytes that are no characters. -/
def negate (m : Mode) (negated : Bool) (s : CodeSet) : Except Fault CodeSet :=
  if !negated then .ok s
  else if m.unicode then .ok s.compl
  else .error .notUtf8

/-- A character out of a set. -/
def set (m : Mode) (s : CodeSet) : Expr :=
  .ofSet (!m.unicode) s

/-- A character by itself. -/
def char (m : Mode) (c : Char) : Expr :=
  let folded := m.fold (.single c)
  if folded = .single c then .ofSet false folded else m.set folded

/-- What a dot stands for. -/
def dot (m : Mode) : Except Fault CodeSet :=
  if !m.unicode then .error .notUtf8
  else if m.dotAll then .ok .all
  else if m.returns then .ok (CodeSet.ofText "A D").compl
  else .ok (CodeSet.ofText "A").compl

end Mode

end HybridQuery.Regex
