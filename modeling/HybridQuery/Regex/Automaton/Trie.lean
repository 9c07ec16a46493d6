import HybridQuery.Regex.Automaton.Size

/-!
# Automata for texts

A choice between texts is read by a tree: texts that begin alike share its states as far as
they do. The order of the branches matters for what is matched, so a text that ends splits the
texts after it from those before it, and only texts on the same side share states.
-/

namespace HybridQuery.Regex

/-- Texts cut at the empty ones. There is one part more than there are empty texts. -/
def cutAtEmpty : List (List Nat) → List (List (List Nat))
  | [] => [[]]
  | text :: rest =>
    match text, cutAtEmpty rest with
    | [], parts => [] :: parts
    | text, [] => [[text]]
    | text, part :: parts => (text :: part) :: parts

/-- Empty texts at the beginning count as one. -/
def dropRepeated : List (List Nat) → List (List Nat)
  | [] :: [] :: rest => dropRepeated ([] :: rest)
  | texts => texts

/-- The first bytes of texts, each one once. -/
def firstBytes (texts : List (List Nat)) : List Nat :=
  (texts.filterMap List.head?).eraseDups

/-- What follows a first byte in the texts that have it. -/
def restsAfter (byte : Nat) (texts : List (List Nat)) : List (List Nat) :=
  texts.filterMap fun text =>
    match text with
    | [] => none
    | first :: rest => if first = byte then some rest else none

mutual

/-- Adds the states for texts of at most `n` bytes: one for each part of them, and one that
branches to those. Where all texts end there is nothing to add. -/
def trieState : Nat → List (List Nat) → Build Unit
  | 0, _ => return ()
  | n + 1, texts =>
    if texts.all List.isEmpty then return ()
    else do
      let parts := cutAtEmpty (dropRepeated texts)
      trieParts n parts
      let ways := (parts.length - 1) + (parts.filter fun part => !part.isEmpty).length
      Build.grow 1 (ways * Size.ofBranch)

/-- Adds the states for the parts of texts, after those for what follows their first bytes. -/
def trieParts : Nat → List (List (List Nat)) → Build Unit
  | _, [] => return ()
  | n, part :: rest => do
    let bytes := firstBytes part
    trieRests n part bytes
    match bytes with
    | [] => pure ()
    | [_] => Build.grow 1 0
    | bytes => Build.grow 1 (bytes.length * Size.ofEdge)
    trieParts n rest

/-- Adds the states for what follows some first bytes. -/
def trieRests : Nat → List (List Nat) → List Nat → Build Unit
  | _, _, [] => return ()
  | n, part, byte :: bytes => do
    trieState n (restsAfter byte part)
    trieRests n part bytes

end

/-- Reads one of some texts. -/
def trie (texts : List (List Nat)) : Build End := do
  Build.grow 1 0
  trieState (texts.foldl (fun n text => max n text.length) 0) texts
  return .single

end HybridQuery.Regex
