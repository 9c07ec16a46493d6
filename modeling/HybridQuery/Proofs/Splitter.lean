import HybridQuery.Proofs.GroupReader

/-!
# Splitting a query at its joiners

A query is cut at each joiner that stands outside of parentheses and of double quotes and is not
behind a backslash (`splitAt`), from left to right. `Scan` is what has to be known half-way. It is
coarser than what a `Reader` of groups knows, so a text that is read without a group left open
leaves a scan where it was (`Scan.run_of_reads`).

A joiner is a word between two spaces. In a text without a space outside (`Solid`) none begins, so
whatever follows, it is part of the piece (`passes_of_solid`). If the text stands behind a space,
there still is one way for a joiner to begin in front of it: the text is the word itself, and the
second space is that of the joiner that was meant (`word_prefix_iff`).
-/

namespace HybridQuery

/-! ## Reading -/

/-- What has to be known about a query that is read up to some place. -/
structure Scan where
  /-- The next character is plain. -/
  shielded : Bool := false
  /-- Between double quotes. -/
  quoted : Bool := false
  /-- The number of open parentheses. -/
  depth : Nat := 0
  deriving DecidableEq, Repr

namespace Scan

/-- Read a character. -/
def next (s : Scan) (c : Char) : Scan :=
  if s.shielded then { s with shielded := false }
  else if c = '\\' then { s with shielded := true }
  else if c = '"' then { s with quoted := !s.quoted }
  else if s.quoted then s
  else if c = '(' then { s with depth := s.depth + 1 }
  else if c = ')' then { s with depth := s.depth - 1 }
  else s

/-- Read a text. -/
def run (s : Scan) (text : List Char) : Scan :=
  text.foldl next s

@[simp] theorem run_nil (s : Scan) : s.run [] = s := rfl

@[simp] theorem run_cons (s : Scan) (c : Char) (rest : List Char) :
    s.run (c :: rest) = (s.next c).run rest := rfl

theorem run_append (s : Scan) (t u : List Char) : s.run (t ++ u) = (s.run t).run u :=
  List.foldl_append ..

theorem next_of_not_mem {s : Scan} {c : Char} (h : s.shielded = false → c ∉ delimiters) :
    s.next c = { s with shielded := shield s.shielded c } := by
  obtain ⟨shielded, quoted, depth⟩ := s
  cases shielded with
  | true => rfl
  | false =>
    have hc := h rfl
    simp only [delimiters, List.mem_cons, List.not_mem_nil, or_false, not_or] at hc
    obtain ⟨hquote, hopen, hclose, -, -⟩ := hc
    by_cases hbackslash : c = '\\' <;> simp [next, shield, *]

/-- A reader that knows the groups counts them. -/
theorem next_of_reader {r r' : Reader} {c : Char} (h : r.next c = some r') (depth : Nat) :
    next ⟨r.shielded, r.quoted, r.outer.length + depth⟩ c =
      ⟨r'.shielded, r'.quoted, r'.outer.length + depth⟩ := by
  obtain ⟨shielded, quoted, bracketed, groups, outer⟩ := r
  cases shielded with
  | true =>
    cases h
    rfl
  | false =>
    by_cases hc : c ∈ delimiters
    · simp only [delimiters, List.mem_cons, List.not_mem_nil, or_false] at hc
      rcases hc with rfl | rfl | rfl | rfl | rfl
      · cases h
        rfl
      · cases quoted <;> cases bracketed <;> cases h <;> simp [next, Nat.add_right_comm]
      · cases quoted <;> cases bracketed <;> cases outer <;> cases h <;>
          simp [next, Nat.add_right_comm]
      all_goals cases quoted <;> cases bracketed <;> cases h <;> simp [next]
    · rw [Reader.next_of_not_mem fun _ => hc] at h
      cases h
      rw [next_of_not_mem fun _ => hc]

end Scan

/-! ## Splitting -/

/-- The word of a joiner. -/
def Combinator.word : Combinator → String
  | .and => "and"
  | .or => "or"

theorem Combinator.toList_joiner (combinator : Combinator) :
    combinator.joiner.toList = ' ' :: (combinator.word.toList ++ [' ']) := by
  cases combinator <;> rfl

/-- A character in front of the first piece. -/
def consFirst (c : Char) : List (List Char) → List (List Char)
  | [] => [[c]]
  | piece :: pieces => (c :: piece) :: pieces

/-- A text in front of the first piece. -/
def prependFirst (text : List Char) (pieces : List (List Char)) : List (List Char) :=
  text.foldr consFirst pieces

/-- The pieces of a text that is read on from `s`, when the first `skip` characters of it belong to
a joiner that is found already. -/
def pieces (joiner : List Char) : Nat → Scan → List Char → List (List Char)
  | _, _, [] => [[]]
  | skip + 1, s, _ :: rest => pieces joiner skip s rest
  | 0, s, c :: rest =>
    if s = {} ∧ joiner <+: c :: rest then [] :: pieces joiner (joiner.length - 1) s rest
    else consFirst c (pieces joiner 0 (s.next c) rest)

/-- The pieces of a text between the joiners that stand outside. -/
def splitAt (combinator : Combinator) (text : String) : List String :=
  (pieces combinator.joiner.toList 0 {} text.toList).map String.ofList

/-- No joiner that stands outside begins in the text, given what follows it. -/
def Passes (joiner rest : List Char) : Scan → List Char → Prop
  | _, [] => True
  | s, c :: text => ¬(s = {} ∧ joiner <+: c :: (text ++ rest)) ∧ Passes joiner rest (s.next c) text

section Pieces

variable {joiner : List Char}

theorem passes_append {rest : List Char} (u : List Char) : ∀ {s : Scan} {t : List Char},
    Passes joiner rest s (t ++ u) ↔ Passes joiner (u ++ rest) s t ∧ Passes joiner rest (s.run t) u
  | _, [] => by simp [Passes]
  | _, c :: t => by
    simp only [List.cons_append, Passes, List.append_assoc, passes_append u (t := t), Scan.run_cons,
      and_assoc]

/-- A text in which no joiner begins goes to the first piece. -/
theorem pieces_append (rest : List Char) : ∀ {s : Scan} {text : List Char},
    Passes joiner rest s text →
      pieces joiner 0 s (text ++ rest) = prependFirst text (pieces joiner 0 (s.run text) rest)
  | _, [], _ => rfl
  | _, c :: text, ⟨hc, htext⟩ => by
    rw [List.cons_append, pieces, if_neg hc, pieces_append rest htext]
    rfl

theorem pieces_skip (s : Scan) (rest : List Char) : ∀ text : List Char,
    pieces joiner text.length s (text ++ rest) = pieces joiner 0 s rest
  | [] => rfl
  | _ :: text => pieces_skip s rest text

/-- A joiner that stands outside ends a piece. -/
theorem pieces_joiner (hne : joiner ≠ []) (rest : List Char) :
    pieces joiner 0 {} (joiner ++ rest) = [] :: pieces joiner 0 {} rest := by
  obtain ⟨c, tail, rfl⟩ := List.exists_cons_of_ne_nil hne
  have hfound : (({} : Scan) = {} ∧ c :: tail <+: c :: (tail ++ rest)) :=
    ⟨rfl, List.prefix_append (c :: tail) rest⟩
  rw [List.cons_append, pieces, if_pos hfound, List.length_cons, Nat.add_sub_cancel, pieces_skip]

end Pieces

theorem prependFirst_cons (text piece : List Char) (pieces : List (List Char)) :
    prependFirst text (piece :: pieces) = (text ++ piece) :: pieces := by
  induction text with
  | nil => rfl
  | cons c text ih =>
    rw [prependFirst, List.foldr_cons]
    rw [prependFirst] at ih
    rw [ih]
    rfl

/-! ## Texts without a space outside -/

/-- No space of a text that is read from `s` stands outside. -/
def Solid (s : Scan) : List Char → Prop
  | [] => True
  | c :: rest => (s = {} → c ≠ ' ') ∧ Solid (s.next c) rest

@[simp] theorem solid_nil (s : Scan) : Solid s [] := trivial

theorem solid_cons {s : Scan} {c : Char} {rest : List Char} :
    Solid s (c :: rest) ↔ (s = {} → c ≠ ' ') ∧ Solid (s.next c) rest := .rfl

theorem solid_append (u : List Char) : ∀ {s : Scan} {t : List Char},
    Solid s (t ++ u) ↔ Solid s t ∧ Solid (s.run t) u
  | _, [] => by simp [Solid]
  | _, c :: t => by
    simp only [List.cons_append, Solid, solid_append u (t := t), Scan.run_cons, and_assoc]

theorem solid_of_space_not_mem : ∀ {s : Scan} {text : List Char}, ' ' ∉ text → Solid s text
  | _, [], _ => trivial
  | _, c :: text, h => by
    obtain ⟨hc, htext⟩ := not_or.mp (List.mem_cons.not.mp h)
    exact ⟨fun _ => Ne.symm hc, solid_of_space_not_mem htext⟩

/-- Every space of a text in which nothing is active is behind a backslash. -/
theorem solid_of_active_eq_nil : ∀ {s : Scan} {text : List Char},
    active s.shielded text = [] → Solid s text
  | _, [], _ => trivial
  | s, c :: text, h => by
    rw [active] at h
    split_ifs at h with hc
    have hplain : s.shielded = false → c ∉ reserved := fun hs hmem => hc ⟨hmem, hs⟩
    have hreserved : delimiters ⊆ reserved := by simp [delimiters, reserved]
    have hnext : s.next c = { s with shielded := shield s.shielded c } :=
      Scan.next_of_not_mem fun hs hmem => hplain hs (hreserved hmem)
    refine ⟨?_, ?_⟩
    · rintro rfl rfl
      exact hplain rfl (by decide)
    · rw [hnext]
      exact solid_of_active_eq_nil h

/-- What stands between double quotes is not outside. -/
theorem solid_of_quoted : ∀ {s : Scan} {body : List Char}, s.quoted = true → '"' ∉ body →
    Solid s body
  | _, [], _, _ => trivial
  | s, c :: body, hs, h => by
    obtain ⟨hc, hbody⟩ := not_or.mp (List.mem_cons.not.mp h)
    obtain ⟨shielded, quoted, depth⟩ := s
    obtain rfl : quoted = true := hs
    refine ⟨fun heq => absurd (congrArg Scan.quoted heq) (by simp), solid_of_quoted ?_ hbody⟩
    cases shielded with
    | true => rfl
    | false => by_cases hbackslash : c = '\\' <;> simp [Scan.next, hbackslash, Ne.symm hc]

/-- What stands in parentheses is not outside. -/
theorem solid_of_reader : ∀ {r r' : Reader} {text : List Char}, r.run text = some r' →
    ∀ depth, Solid ⟨r.shielded, r.quoted, r.outer.length + (depth + 1)⟩ text
  | _, _, [], _, _ => trivial
  | r, r', c :: text, h, depth => by
    rw [Reader.run_cons] at h
    obtain ⟨r₁, hnext, hrest⟩ := Option.bind_eq_some_iff.mp h
    refine ⟨fun heq => ?_, ?_⟩
    · have hdepth : r.outer.length + (depth + 1) = 0 := congrArg Scan.depth heq
      omega
    · rw [Scan.next_of_reader hnext]
      exact solid_of_reader hrest depth

theorem Scan.run_of_reader : ∀ {r r' : Reader} {text : List Char}, r.run text = some r' →
    ∀ depth, Scan.run ⟨r.shielded, r.quoted, r.outer.length + depth⟩ text =
      ⟨r'.shielded, r'.quoted, r'.outer.length + depth⟩
  | _, _, [], h, _ => by
    cases h
    rfl
  | r, r', c :: text, h, depth => by
    rw [Reader.run_cons] at h
    obtain ⟨r₁, hnext, hrest⟩ := Option.bind_eq_some_iff.mp h
    rw [run_cons, next_of_reader hnext, run_of_reader hrest]

/-- A text with complete groups leaves a scan where it was. -/
theorem Reads.run_eq {text : String} {groups : List Nest} (h : Reads text groups) :
    Scan.run {} text.toList = {} :=
  Scan.run_of_reader (h {} ⟨rfl, rfl, rfl⟩) 0

theorem Reads.solid_parenthesized {text : String} {groups : List Nest} (h : Reads text groups) :
    Solid {} ("(" ++ text ++ ")").toList := by
  have hlist : ("(" ++ text ++ ")").toList = '(' :: (text.toList ++ [')']) := by simp
  have hread := h {} ⟨rfl, rfl, rfl⟩
  have hdepth : Scan.run ⟨false, false, 1⟩ text.toList = ⟨false, false, 1⟩ :=
    Scan.run_of_reader hread 1
  rw [hlist]
  refine ⟨fun _ => by decide, (solid_append [')']).mpr ⟨solid_of_reader hread 0, ?_⟩⟩
  have hopen : Scan.next {} '(' = ⟨false, false, 1⟩ := rfl
  rw [hopen, hdepth]
  exact ⟨fun _ => by decide, trivial⟩

theorem solid_quoted {body : String} (h : '"' ∉ body.toList) :
    Solid {} ("\"" ++ body ++ "\"").toList := by
  have hlist : ("\"" ++ body ++ "\"").toList = '"' :: (body.toList ++ ['"']) := by simp
  rw [hlist]
  refine ⟨fun _ => by decide, (solid_append ['"']).mpr ⟨solid_of_quoted rfl h, ?_⟩⟩
  exact solid_of_space_not_mem (by decide)

/-! ## Joiners behind a text -/

/-- What may follow a text: nothing, or a joiner. -/
def Follows (rest : List Char) : Prop :=
  rest = [] ∨ rest.head? = some ' '

/-- No joiner begins where there is no space. -/
theorem passes_of_solid (combinator : Combinator) (rest : List Char) :
    ∀ {s : Scan} {text : List Char}, Solid s text → Passes combinator.joiner.toList rest s text
  | _, [], _ => trivial
  | s, c :: text, ⟨hc, htext⟩ => by
    refine ⟨?_, passes_of_solid combinator rest htext⟩
    rintro ⟨hs, hjoiner⟩
    rw [combinator.toList_joiner, List.cons_prefix_cons] at hjoiner
    exact hc hs hjoiner.1.symm

/-- A word and a space that begin in front of a text end in it only if the text is the word. -/
theorem word_prefix_iff {word : List Char} (hplain : ∀ c ∈ word, Scan.next {} c = {})
    (hspace : ' ' ∉ word) {rest : List Char} (hrest : Follows rest) :
    ∀ {text : List Char}, Solid {} text →
      (word ++ [' '] <+: text ++ rest ↔ text = word ∧ rest ≠ []) := by
  induction word with
  | nil =>
    intro text htext
    cases text with
    | nil =>
      rcases hrest with rfl | hrest
      · simp
      · obtain ⟨rest, rfl⟩ := List.head?_eq_some_iff.mp hrest
        simp
    | cons c text =>
      have hc : ' ' ≠ c := Ne.symm (htext.1 rfl)
      simp [hc]
  | cons d word ih =>
    intro text htext
    obtain ⟨hd, hword⟩ := not_or.mp (List.mem_cons.not.mp hspace)
    cases text with
    | nil =>
      rcases hrest with rfl | hrest
      · simp
      · obtain ⟨rest, rfl⟩ := List.head?_eq_some_iff.mp hrest
        simp [Ne.symm hd]
    | cons c text =>
      rw [List.cons_append, List.cons_append, List.cons_prefix_cons, List.cons.injEq, and_assoc,
        eq_comm (a := d)]
      have hrest : ∀ e ∈ word, Scan.next {} e = {} :=
        fun e he => hplain e (List.mem_cons_of_mem d he)
      refine and_congr_right fun hcd => ih hrest hword ?_
      -- a character of the word changes nothing, so the rest is read from the same place
      have htail := htext.2
      rwa [hcd, hplain d List.mem_cons_self] at htail

-- unfolded at the characters of a rendered text it would run the renderer
attribute [irreducible] Solid

end HybridQuery
