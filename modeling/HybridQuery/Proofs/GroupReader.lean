import HybridQuery.Proofs.Escaping
import HybridQuery.Search.Draft

/-!
# Reading the groups of a query

A query is read from left to right. A backslash makes the next character plain, text between
double quotes is skipped, and of what remains the parentheses are groups. Brackets hold a list of
values and nothing that nests. `Reader` is what is known half-way, and `readGroups` gives the tree
of groups of a whole query if nothing in it is left open.

`Reads` says what a text contributes wherever it stands outside of quotes and brackets: the groups
in it, and nothing else. Most texts contribute nothing, also in brackets (`Neutral`): those
without delimiters, inert ones, and whatever is put between double quotes. Both properties pass to
texts in a row (`Reads.append`, `Reads.intercalate`), and parentheses around a text make one
group of those in it (`Reads.parenthesized`).

A template is read as the text it is the template of, as long as there is nothing to put in
(`Reader.run_formatText`).
-/

namespace HybridQuery

/-- Groups in groups. -/
inductive Nest where
  | node (children : List Nest)
  deriving Repr

/-- What is known about a query that is read up to some place. -/
structure Reader where
  /-- The next character is plain. -/
  shielded : Bool := false
  /-- Between double quotes. -/
  quoted : Bool := false
  /-- Between brackets. -/
  bracketed : Bool := false
  /-- The groups that are complete, of those directly in the innermost open one. -/
  groups : List Nest := []
  /-- The complete groups in front of each open one, from the inside out. -/
  outer : List (List Nest) := []

/-- What means something to a reader, besides the backslash. -/
def delimiters : List Char :=
  ['"', '(', ')', '[', ']']

namespace Reader

/-- The innermost group is complete, if there is one. -/
def close (r : Reader) : Option Reader :=
  match r.outer with
  | [] => none
  | before :: outer => some { r with groups := before ++ [.node r.groups], outer }

/-- A parenthesis, a bracket, or any other character outside of quotes. Between brackets there are
no parentheses and no other brackets. -/
def delimit (r : Reader) (c : Char) : Option Reader :=
  if r.bracketed then
    if c = ']' then some { r with bracketed := false }
    else if c ∈ delimiters then none
    else some r
  else if c = '(' then some { r with groups := [], outer := r.groups :: r.outer }
  else if c = ')' then r.close
  else if c = '[' then some { r with bracketed := true }
  else if c = ']' then none
  else some r

/-- Read a character. -/
def next (r : Reader) (c : Char) : Option Reader :=
  if r.shielded then some { r with shielded := false }
  else if c = '\\' then some { r with shielded := true }
  else if c = '"' then some { r with quoted := !r.quoted }
  else if r.quoted then some r
  else r.delimit c

/-- Read a text. -/
def run (r : Reader) (text : List Char) : Option Reader :=
  text.foldlM next r

/-- Outside of quotes and brackets, and not behind a backslash. -/
structure AtRest (r : Reader) : Prop where
  shielded : r.shielded = false
  quoted : r.quoted = false
  bracketed : r.bracketed = false

end Reader

/-- The groups of a query, if all that is opened in it is closed again. -/
def readGroups (query : String) : Option (List Nest) :=
  match Reader.run {} query.toList with
  | some ⟨false, false, false, groups, []⟩ => some groups
  | _ => none

namespace Reader

@[simp] theorem run_nil (r : Reader) : r.run [] = some r := rfl

@[simp] theorem run_cons (r : Reader) (c : Char) (rest : List Char) :
    r.run (c :: rest) = (r.next c).bind fun s => s.run rest := rfl

theorem run_append (r : Reader) (s t : List Char) :
    r.run (s ++ t) = (r.run s).bind fun r' => r'.run t :=
  List.foldlM_append ..

/-! ## Characters that are passed over -/

theorem next_of_not_mem {r : Reader} {c : Char} (h : r.shielded = false → c ∉ delimiters) :
    r.next c = some { r with shielded := shield r.shielded c } := by
  obtain ⟨shielded, quoted, bracketed, groups, outer⟩ := r
  cases shielded with
  | true => rfl
  | false =>
    have hc := h rfl
    simp only [delimiters, List.mem_cons, List.not_mem_nil, or_false, not_or] at hc
    obtain ⟨hquote, hopen, hclose, hbracket, hbracket'⟩ := hc
    by_cases hbackslash : c = '\\'
    · simp [next, shield, hbackslash]
    · cases quoted <;> cases bracketed <;>
        simp [next, shield, delimit, delimiters, *]

theorem next_of_quoted {r : Reader} {c : Char} (hquoted : r.quoted = true) (h : c ≠ '"') :
    r.next c = some { r with shielded := shield r.shielded c } := by
  obtain ⟨shielded, quoted, bracketed, groups, outer⟩ := r
  obtain rfl : quoted = true := hquoted
  cases shielded with
  | true => rfl
  | false => by_cases hbackslash : c = '\\' <;> simp [next, shield, h, hbackslash]

theorem run_of_forall_next {text : List Char} : ∀ {r : Reader},
    (∀ shielded, ∀ c ∈ text, next { r with shielded } c =
      some { r with shielded := shield shielded c }) →
      r.run text = some { r with shielded := shields r.shielded text } := by
  induction text with
  | nil => intro r _; rfl
  | cons c rest ih =>
    intro r h
    rw [run_cons, h r.shielded c List.mem_cons_self, Option.bind_some]
    exact ih fun shielded d hd => h shielded d (List.mem_cons_of_mem _ hd)

/-- What is not active is passed over. -/
theorem run_of_active_eq_nil {text : List Char} : ∀ {r : Reader},
    active r.shielded text = [] →
      r.run text = some { r with shielded := shields r.shielded text } := by
  induction text with
  | nil => intro r _; rfl
  | cons c rest ih =>
    intro r h
    have hreserved : delimiters ⊆ reserved := by simp [delimiters, reserved]
    rw [active] at h
    split_ifs at h with hc
    have hplain : r.shielded = false → c ∉ delimiters := fun hr hd => hc ⟨hreserved hd, hr⟩
    rw [run_cons, next_of_not_mem hplain, Option.bind_some]
    exact ih h

end Reader

/-! ## Texts that contribute nothing -/

/-- A text that makes no difference, outside of quotes. -/
def Neutral (text : String) : Prop :=
  ∀ r : Reader, r.shielded = false → r.quoted = false → r.run text.toList = some r

/-- A text without backslashes and delimiters. -/
structure PlainText (text : String) : Prop where
  backslash : '\\' ∉ text.toList
  delimiter : ∀ c ∈ text.toList, c ∉ delimiters

/-- A text that can be put between double quotes. -/
structure Quotable (text : List Char) : Prop where
  quote : '"' ∉ text
  shields_eq_false : shields false text = false

namespace PlainText

/-- A text of characters that none of those with a meaning is among. -/
theorem of_forall {p : Char → Bool} {text : String} (h : ∀ c ∈ text.toList, p c = true)
    (hp : ('\\' :: delimiters).all (fun c => !p c) = true) : PlainText text := by
  have hnot : ∀ c ∈ '\\' :: delimiters, c ∉ text.toList := by
    intro c hc hmem
    have hfalse := List.all_eq_true.mp hp c hc
    rw [h c hmem] at hfalse
    cases hfalse
  exact ⟨hnot _ List.mem_cons_self, fun c hc hd => hnot c (List.mem_cons_of_mem _ hd) hc⟩

instance (text : String) : Decidable (PlainText text) :=
  decidable_of_iff ((text.toList.all fun c => !decide (c ∈ '\\' :: delimiters)) = true)
    ⟨fun h => of_forall (List.all_eq_true.mp h) rfl,
      fun h => List.all_eq_true.mpr fun c hc => by
        simp [ne_of_mem_of_not_mem hc h.backslash, h.delimiter c hc]⟩

protected theorem append {s t : String} (hs : PlainText s) (ht : PlainText t) :
    PlainText (s ++ t) := by
  constructor
  · rw [String.toList_append, List.mem_append]
    exact not_or.mpr ⟨hs.backslash, ht.backslash⟩
  · rw [String.toList_append, List.forall_mem_append]
    exact ⟨hs.delimiter, ht.delimiter⟩

end PlainText

namespace Neutral

theorem of_plain {text : String} (h : PlainText text) : Neutral text := by
  intro r hshielded _
  rw [Reader.run_of_forall_next fun _ c hc => Reader.next_of_not_mem fun _ => h.delimiter c hc,
    hshielded, shields_of_not_mem h.backslash, ← hshielded]

theorem of_inert {text : String} (h : Inert text.toList) : Neutral text := by
  intro r hshielded _
  rw [Reader.run_of_active_eq_nil (hshielded ▸ h.active_eq_nil), hshielded, h.shields_eq_false,
    ← hshielded]

protected theorem append {s t : String} (hs : Neutral s) (ht : Neutral t) : Neutral (s ++ t) := by
  intro r hshielded hquoted
  rw [String.toList_append, Reader.run_append, hs r hshielded hquoted, Option.bind_some,
    ht r hshielded hquoted]

/-- Whatever stands between double quotes is passed over. -/
theorem quoted {text : String} (h : Quotable text.toList) : Neutral ("\"" ++ text ++ "\"") := by
  intro r hshielded hquoted
  obtain ⟨shielded, quoted, bracketed, groups, outer⟩ := r
  obtain rfl : shielded = false := hshielded
  obtain rfl : quoted = false := hquoted
  have hlist : ("\"" ++ text ++ "\"").toList = '"' :: (text.toList ++ ['"']) := by simp
  have hopen : Reader.next ⟨false, false, bracketed, groups, outer⟩ '"' =
      some ⟨false, true, bracketed, groups, outer⟩ := rfl
  have hbody : Reader.run ⟨false, true, bracketed, groups, outer⟩ text.toList =
      some ⟨false, true, bracketed, groups, outer⟩ := by
    rw [Reader.run_of_forall_next fun _ c hc => Reader.next_of_quoted rfl
      (ne_of_mem_of_not_mem hc h.quote), h.shields_eq_false]
  rw [hlist, Reader.run_cons, hopen, Option.bind_some, Reader.run_append, hbody]
  rfl

protected theorem intercalate {separator : String} (hseparator : Neutral separator) :
    ∀ {texts : List String}, (∀ text ∈ texts, Neutral text) →
      Neutral (separator.intercalate texts)
  | [], _ => fun _ _ _ => rfl
  | [text], h => by
    rw [String.intercalate_singleton]
    exact h text List.mem_cons_self
  | text :: other :: rest, h => by
    obtain ⟨htext, hrest⟩ := List.forall_mem_cons.mp h
    rw [String.intercalate_cons_cons]
    exact (htext.append hseparator).append (hseparator.intercalate hrest)

end Neutral

/-! ## Texts with groups -/

/-- A text that contributes these groups, wherever it stands outside of quotes and brackets. None
of either is left open at its end. -/
def Reads (text : String) (groups : List Nest) : Prop :=
  ∀ r : Reader, r.AtRest → r.run text.toList = some { r with groups := r.groups ++ groups }

theorem Neutral.reads {text : String} (h : Neutral text) : Reads text [] := by
  intro r hr
  rw [h r hr.shielded hr.quoted, List.append_nil]

namespace Reads

protected theorem append {s t : String} {groups others : List Nest} (hs : Reads s groups)
    (ht : Reads t others) : Reads (s ++ t) (groups ++ others) := by
  intro r hr
  have hr' : Reader.AtRest { r with groups := r.groups ++ groups } :=
    ⟨hr.shielded, hr.quoted, hr.bracketed⟩
  rw [String.toList_append, Reader.run_append, hs r hr, Option.bind_some, ht _ hr',
    List.append_assoc]

/-- A separator adds no groups. -/
protected theorem intercalate {separator : String} (hseparator : Neutral separator) :
    ∀ {texts : List String} {groups : List (List Nest)}, List.Forall₂ Reads texts groups →
      Reads (separator.intercalate texts) groups.flatten
  | [], _, .nil => fun r _ => by simp
  | [text], _, .cons htext .nil => by
    simpa using htext
  | text :: other :: rest, _, .cons htext hrest => by
    rw [String.intercalate_cons_cons, List.flatten_cons]
    have hlead := htext.append hseparator.reads
    rw [List.append_nil] at hlead
    exact hlead.append (Reads.intercalate hseparator hrest)

/-- What is in parentheses is one group. -/
theorem parenthesized {text : String} {groups : List Nest} (h : Reads text groups) :
    Reads ("(" ++ text ++ ")") [.node groups] := by
  intro r hr
  obtain ⟨shielded, quoted, bracketed, before, outer⟩ := r
  obtain ⟨hshielded, hquoted, hbracketed⟩ := hr
  cases hshielded
  cases hquoted
  cases hbracketed
  have hlist : ("(" ++ text ++ ")").toList = '(' :: (text.toList ++ [')']) := by simp
  have hopen : Reader.next ⟨false, false, false, before, outer⟩ '(' =
      some ⟨false, false, false, [], before :: outer⟩ := rfl
  rw [hlist, Reader.run_cons, hopen, Option.bind_some, Reader.run_append, h _ ⟨rfl, rfl, rfl⟩]
  rfl

theorem bracketed {text : String} (h : Neutral text) : Reads ("[" ++ text ++ "]") [] := by
  intro r hr
  obtain ⟨shielded, quoted, bracketed, groups, outer⟩ := r
  obtain ⟨hshielded, hquoted, hbracketed⟩ := hr
  cases hshielded
  cases hquoted
  cases hbracketed
  have hlist : ("[" ++ text ++ "]").toList = '[' :: (text.toList ++ [']']) := by simp
  have hopen : Reader.next ⟨false, false, false, groups, outer⟩ '[' =
      some ⟨false, false, true, groups, outer⟩ := rfl
  rw [hlist, Reader.run_cons, hopen, Option.bind_some, Reader.run_append, h _ rfl rfl,
    List.append_nil]
  rfl

theorem readGroups_eq {query : String} {groups : List Nest} (h : Reads query groups) :
    readGroups query = some groups := by
  rw [readGroups, h {} ⟨rfl, rfl, rfl⟩]
  rfl

end Reads

/-! ## Templates -/

/-- What a text becomes in a template. -/
def formatText (text : String) : String :=
  String.ofList (text.toList.flatMap templateChar)

theorem formatText_append (s t : String) : formatText (s ++ t) = formatText s ++ formatText t := by
  simp [formatText]

theorem formatText_intercalate {separator : String} (h : formatText separator = separator) :
    ∀ texts : List String, formatText (separator.intercalate texts) =
      separator.intercalate (texts.map formatText)
  | [] => rfl
  | [text] => by simp
  | text :: other :: rest => by
    rw [String.intercalate_cons_cons, formatText_append, formatText_append, h,
      formatText_intercalate h (other :: rest)]
    simp

/-- A percent sign that is doubled is still passed over. -/
theorem Reader.run_templateChar {c : Char} (h : c ≠ mark) (r : Reader) :
    r.run (templateChar c) = r.next c := by
  by_cases hpercent : c = '%'
  · subst hpercent
    have hplain : ∀ s : Reader, s.next '%' = some { s with shielded := false } := by
      intro s
      rw [next_of_not_mem fun _ => by decide]
      simp [shield]
    have htwice : templateChar '%' = ['%', '%'] := rfl
    simp [htwice, hplain]
  · have hsame : templateChar c = [c] := by
      simp [templateChar, hpercent, h]
    rw [hsame, run_cons]
    exact Option.bind_fun_some _

theorem Reader.run_formatText {text : String} (h : mark ∉ text.toList) (r : Reader) :
    r.run (formatText text).toList = r.run text.toList := by
  rw [formatText, String.toList_ofList]
  generalize text.toList = chars at h
  induction chars generalizing r with
  | nil => rfl
  | cons c rest ih =>
    obtain ⟨hc, hrest⟩ := not_or.mp (List.mem_cons.not.mp h)
    rw [List.flatMap_cons, run_append, run_cons, run_templateChar (Ne.symm hc)]
    exact congrArg (Option.bind _) (funext fun s => ih s hrest)

theorem reads_formatText_iff {text : String} (h : mark ∉ text.toList) {groups : List Nest} :
    Reads (formatText text) groups ↔ Reads text groups := by
  simp only [Reads, Reader.run_formatText h]

/-- A mark becomes a placeholder between double quotes. -/
theorem neutral_formatText_mark : Neutral (formatText (String.singleton mark)) := by
  have hmark : formatText (String.singleton mark) = "\"" ++ "%s" ++ "\"" := rfl
  rw [hmark]
  exact Neutral.quoted ⟨by decide, rfl⟩

/-- A name may even hold marks. -/
theorem neutral_formatText_of_plain {text : String} (h : PlainText text) :
    Neutral (formatText text) := by
  intro r hshielded hquoted
  obtain ⟨hbackslash, hdelimiter⟩ := h
  rw [formatText, String.toList_ofList]
  generalize text.toList = chars at hbackslash hdelimiter
  induction chars with
  | nil => rfl
  | cons c rest ih =>
    obtain ⟨hc, hrest⟩ := not_or.mp (List.mem_cons.not.mp hbackslash)
    obtain ⟨hcd, hrestd⟩ := List.forall_mem_cons.mp hdelimiter
    have hchar : r.run (templateChar c) = some r := by
      by_cases hmark : c = mark
      · subst hmark
        exact neutral_formatText_mark r hshielded hquoted
      · have hshield : shield r.shielded c = r.shielded := by
          simp [shield, Ne.symm hc, hshielded]
        rw [Reader.run_templateChar hmark, Reader.next_of_not_mem fun _ => hcd, hshield]
    rw [List.flatMap_cons, Reader.run_append, hchar, Option.bind_some, ih hrest hrestd]

end HybridQuery
