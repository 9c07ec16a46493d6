import HybridQuery.Proofs.Searchable
import HybridQuery.Proofs.Splitter

/-!
# When two lists are written alike

`IN` writes its strings between brackets, each one escaped, with commas between them. A comma of a
string stands behind a backslash, so a string that ends in a backslash of its own is written as if
it went on with the comma that follows and with the next string.

`runOn` are the strings that come of joining such a string to the next, and `readItems` reads just
these back from what stands between the brackets (`readItems_writtenItems`). Two lists of strings
are therefore written alike exactly if the same strings come of both
(`renderComparison_isIn_eq_iff`). If no string but the last ends in a backslash, these are the
strings of the list, and the lists are the same.
-/

namespace HybridQuery

/-! ## Strings that run on -/

/-- A string with others behind it. If it ends in a backslash, a comma takes the place of that and
the next string follows. -/
def runInto (item : List Char) : List (List Char) → List (List Char)
  | [] => [item]
  | next :: rest =>
    if item.getLast? = some '\\' then runInto (item.dropLast ++ ',' :: next) rest
    else item :: runInto next rest

/-- The strings that come of joining those that end in a backslash to the next. -/
def runOn : List (List Char) → List (List Char)
  | [] => []
  | item :: rest => runInto item rest

theorem runInto_eq_cons : ∀ {rest : List (List Char)} {item : List Char},
    (∀ other ∈ (item :: rest).dropLast, other.getLast? ≠ some '\\') →
      runInto item rest = item :: rest
  | [], _, _ => rfl
  | next :: rest, item, h => by
    rw [List.dropLast_cons_cons, List.forall_mem_cons] at h
    rw [runInto, if_neg h.1, runInto_eq_cons h.2]

/-- If no string but the last ends in a backslash, none is joined to the next. -/
theorem runOn_eq_self {items : List (List Char)}
    (h : ∀ item ∈ items.dropLast, item.getLast? ≠ some '\\') : runOn items = items := by
  cases items with
  | nil => rfl
  | cons item rest => exact runInto_eq_cons h

/-! ## Reading them back -/

/-- What stands between the brackets of a list. -/
def writtenItems (item : List Char) : List (List Char) → List Char
  | [] => item.flatMap escapeChar
  | next :: rest => item.flatMap escapeChar ++ ',' :: writtenItems next rest

/-- The strings of a list. A backslash in front of a reserved character is left out, and a comma
that is not behind one ends a string. -/
def readItems : List Char → List (List Char)
  | [] => [[]]
  | [c] => if c = ',' then [[], []] else [[c]]
  | c :: d :: rest =>
    if c = '\\' ∧ d ∈ reserved then consFirst d (readItems rest)
    else if c = ',' then [] :: readItems (d :: rest)
    else consFirst c (readItems (d :: rest))

theorem readItems_escaped {c : Char} (h : c ∈ reserved) (rest : List Char) :
    readItems ('\\' :: c :: rest) = consFirst c (readItems rest) :=
  if_pos ⟨rfl, h⟩

theorem readItems_comma (rest : List Char) : readItems (',' :: rest) = [] :: readItems rest := by
  cases rest with
  | nil => rfl
  | cons d rest => rfl

/-- A character that stands for itself. -/
theorem readItems_cons {c : Char} (hc : c ∉ reserved) {rest : List Char}
    (h : c = '\\' → ∀ d ∈ rest.head?, d ∉ reserved) :
    readItems (c :: rest) = consFirst c (readItems rest) := by
  have hcomma : c ≠ ',' := by
    rintro rfl
    exact hc (by decide)
  cases rest with
  | nil => exact if_neg hcomma
  | cons d rest =>
    have hplain : ¬(c = '\\' ∧ d ∈ reserved) := fun hescaped => h hescaped.1 d rfl hescaped.2
    rw [readItems, if_neg hplain, if_neg hcomma]

/-- A string is read back as it is, unless its last backslash stands in front of a reserved
character. -/
theorem readItems_append {rest : List Char} : ∀ {item : List Char},
    (item.getLast? = some '\\' → ∀ d ∈ rest.head?, d ∉ reserved) →
      readItems (item.flatMap escapeChar ++ rest) = prependFirst item (readItems rest)
  | [], _ => rfl
  | c :: item, h => by
    have ih : readItems (item.flatMap escapeChar ++ rest) = prependFirst item (readItems rest) := by
      refine readItems_append fun hlast => h ?_
      rw [List.getLast?_cons, hlast]
      rfl
    have hcons : prependFirst (c :: item) (readItems rest) =
        consFirst c (prependFirst item (readItems rest)) := rfl
    rw [List.flatMap_cons, List.append_assoc, hcons, ← ih]
    by_cases hc : c ∈ reserved
    · rw [escapeChar, if_pos hc]
      exact readItems_escaped hc _
    · rw [escapeChar, if_neg hc]
      refine readItems_cons hc fun hbackslash => ?_
      cases item with
      | nil => exact h (by rw [hbackslash]; rfl)
      | cons next item =>
        intro d hd
        rw [List.flatMap_cons, List.append_assoc] at hd
        exact not_mem_reserved_of_head?_escapeChar hd

/-- A string that ends in a backslash is written as if it went on. -/
theorem writtenItems_runs_on (start next : List Char) (rest : List (List Char)) :
    writtenItems (start ++ ['\\']) (next :: rest) = writtenItems (start ++ ',' :: next) rest := by
  have hbackslash : escapeChar '\\' = ['\\'] := rfl
  have hcomma : escapeChar ',' = ['\\', ','] := rfl
  cases rest with
  | nil => simp [writtenItems, hbackslash, hcomma]
  | cons other rest => simp [writtenItems, hbackslash, hcomma]

/-- What is written is read as the strings that come of the list. -/
theorem readItems_writtenItems : ∀ (rest : List (List Char)) (item : List Char),
    readItems (writtenItems item rest) = runInto item rest
  | [], item => by
    have hread := @readItems_append [] item (fun _ d hd => by cases hd)
    rw [List.append_nil] at hread
    rw [writtenItems, hread, readItems, prependFirst_cons, List.append_nil]
    rfl
  | next :: rest, item => by
    by_cases hlast : item.getLast? = some '\\'
    · obtain ⟨start, rfl⟩ := List.getLast?_eq_some_iff.mp hlast
      rw [runInto, if_pos hlast, List.dropLast_concat, writtenItems_runs_on,
        readItems_writtenItems rest]
    · rw [runInto, if_neg hlast, writtenItems, readItems_append fun h => absurd h hlast,
        readItems_comma, prependFirst_cons, readItems_writtenItems rest next, List.append_nil]

/-- The same is written for the strings that come of the list. -/
theorem exists_writtenItems_runInto : ∀ (rest : List (List Char)) (item : List Char),
    ∃ first others, runInto item rest = first :: others ∧
      writtenItems first others = writtenItems item rest
  | [], item => ⟨item, [], rfl, rfl⟩
  | next :: rest, item => by
    by_cases hlast : item.getLast? = some '\\'
    · obtain ⟨start, rfl⟩ := List.getLast?_eq_some_iff.mp hlast
      rw [runInto, if_pos hlast, List.dropLast_concat, writtenItems_runs_on]
      exact exists_writtenItems_runInto rest _
    · obtain ⟨first, others, hrun, hwritten⟩ := exists_writtenItems_runInto rest next
      refine ⟨item, first :: others, ?_, ?_⟩
      · rw [runInto, if_neg hlast, hrun]
      · rw [writtenItems, writtenItems, hwritten]

theorem writtenItems_eq_iff {item other : List Char} {rest more : List (List Char)} :
    writtenItems item rest = writtenItems other more ↔ runInto item rest = runInto other more := by
  constructor
  · intro h
    rw [← readItems_writtenItems, h, readItems_writtenItems]
  · intro h
    obtain ⟨first, others, hrun, hwritten⟩ := exists_writtenItems_runInto rest item
    obtain ⟨first', others', hrun', hwritten'⟩ := exists_writtenItems_runInto more other
    rw [hrun, hrun'] at h
    cases h
    rw [← hwritten, hwritten']

/-! ## Lists of strings -/

/-- A string as it stands in a list, before it is escaped. -/
def itemOf (text : String) : List Char :=
  withoutQuotes text.toList

theorem toList_intercalate_escape (first : String) : ∀ rest : List String,
    (",".intercalate ((first :: rest).map escape)).toList =
      writtenItems (itemOf first) (rest.map itemOf)
  | [] => by
    rw [List.map_singleton, String.intercalate_singleton, toList_escape]
    rfl
  | next :: rest => by
    have ih := toList_intercalate_escape next rest
    rw [List.map_cons] at ih
    rw [List.map_cons, List.map_cons, String.intercalate_cons_cons, String.toList_append,
      String.toList_append, toList_escape, List.append_assoc, ih]
    rfl

/-- A list of strings is written with what stands between its brackets. -/
theorem renderList_strings (first : String) (rest : List String) :
    renderList ((first :: rest).map Literal.string) = .ok
      ("[" ++ String.ofList (writtenItems (itemOf first) (rest.map itemOf)) ++ "]") := by
  have hvalues : ((first :: rest).map Literal.string).mapM renderLiteral =
      .ok ((first :: rest).map escape) := by
    rw [List.mapM_map]
    exact List.mapM_pure
  rw [renderList, hvalues, ← toList_intercalate_escape, String.ofList_toList]
  rfl

variable (c : Column) (nested : Clause → Rendered)

theorem renderComparison_isIn_strings (first : String) (rest : List String) :
    (renderComparison .standard nested
        ⟨c, .isIn, .list ((first :: rest).map Literal.string)⟩).outcome = .ok
      (c.name ++ ":" ++
        ("[" ++ String.ofList (writtenItems (itemOf first) (rest.map itemOf)) ++ "]")) := by
  have hstrings : ((first :: rest).map Literal.string).all Literal.isString = true := by
    simp [Literal.isString]
  have hscript : Script.isIn c (.list ((first :: rest).map Literal.string)) =
      Script.withOperand (c.name ++ ":") (.list ((first :: rest).map Literal.string)) := by
    rw [Script.isIn, hstrings, Bool.or_true]
    rfl
  have hform : Dialect.standard.form .isIn = .ok (.script Script.isIn) := rfl
  rw [renderComparison_script nested hform, Logged.outcome_note_bind, hscript,
    Script.run_withOperand, renderOperand, renderList_strings]
  rfl

/-- Without double quotes nothing is left out of a string. -/
theorem map_itemOf {texts : List String} (h : ∀ text ∈ texts, '"' ∉ text.toList) :
    texts.map itemOf = texts.map String.toList := by
  refine List.map_congr_left fun text htext => List.filter_eq_self.mpr fun d hd => ?_
  have hne : d ≠ '"' := ne_of_mem_of_not_mem hd (h text htext)
  simpa using hne

/-- Two lists of strings are written alike exactly if the same strings come of both when each
string that ends in a backslash is joined to the next. So they are the same list if none does, the
last ones apart. -/
theorem renderComparison_isIn_eq_iff (xs ys : List String) (hxs : xs ≠ []) (hys : ys ≠ [])
    (hquotes : ∀ text ∈ xs ++ ys, '"' ∉ text.toList) :
    ∃ s t,
      (renderComparison .standard nested ⟨c, .isIn, .list (xs.map Literal.string)⟩).outcome =
        .ok s ∧
      (renderComparison .standard nested ⟨c, .isIn, .list (ys.map Literal.string)⟩).outcome =
        .ok t ∧
      (s = t ↔ runOn (xs.map String.toList) = runOn (ys.map String.toList)) ∧
      ((∀ text ∈ xs.dropLast ++ ys.dropLast, text.toList.getLast? ≠ some '\\') →
        s = t → xs = ys) := by
  obtain ⟨x, xs, rfl⟩ := List.exists_cons_of_ne_nil hxs
  obtain ⟨y, ys, rfl⟩ := List.exists_cons_of_ne_nil hys
  obtain ⟨hquotesx, hquotesy⟩ := List.forall_mem_append.mp hquotes
  have htext : (c.name ++ ":" ++
        ("[" ++ String.ofList (writtenItems (itemOf x) (xs.map itemOf)) ++ "]") =
      c.name ++ ":" ++ ("[" ++ String.ofList (writtenItems (itemOf y) (ys.map itemOf)) ++ "]")) ↔
        runOn ((x :: xs).map String.toList) = runOn ((y :: ys).map String.toList) := by
    rw [← map_itemOf hquotesx, ← map_itemOf hquotesy, List.map_cons, List.map_cons, runOn, runOn,
      ← writtenItems_eq_iff]
    simp [← String.toList_inj]
  refine ⟨_, _, renderComparison_isIn_strings c nested x xs,
    renderComparison_isIn_strings c nested y ys, htext, fun hlast heq => ?_⟩
  obtain ⟨hlastx, hlasty⟩ := List.forall_mem_append.mp hlast
  have hsame := htext.mp heq
  rw [runOn_eq_self, runOn_eq_self] at hsame
  · exact List.map_injective_iff.mpr (fun s t => String.toList_inj.mp) hsame
  · rw [← List.map_dropLast]
    exact List.forall_mem_map.mpr hlasty
  · rw [← List.map_dropLast]
    exact List.forall_mem_map.mpr hlastx

/-- A backslash that runs on makes two strings of one, and a backslash at the end does not matter.
A comma of a string is no end of it. -/
theorem renderComparison_isIn_eq_iff_lengths :
    (∃ s t,
      (renderComparison .standard (fun _ => .fail .noFilterTable) ⟨⟨"products", "tags", .search⟩,
        .isIn, .list (["a\\", "b", "c\\"].map Literal.string)⟩).outcome = .ok s ∧
      (renderComparison .standard (fun _ => .fail .noFilterTable) ⟨⟨"products", "tags", .search⟩,
        .isIn, .list (["a,b", "c\\"].map Literal.string)⟩).outcome = .ok t ∧
      s = t) ∧
    ∃ s t,
      (renderComparison .standard (fun _ => .fail .noFilterTable) ⟨⟨"products", "tags", .search⟩,
        .isIn, .list (["a", "b", "c\\"].map Literal.string)⟩).outcome = .ok s ∧
      (renderComparison .standard (fun _ => .fail .noFilterTable) ⟨⟨"products", "tags", .search⟩,
        .isIn, .list (["a,b", "c\\"].map Literal.string)⟩).outcome = .ok t ∧
      s ≠ t := by
  constructor
  · obtain ⟨s, t, hs, ht, hiff, -⟩ := renderComparison_isIn_eq_iff ⟨"products", "tags", .search⟩
      (fun _ => .fail .noFilterTable) ["a\\", "b", "c\\"] ["a,b", "c\\"] (by decide) (by decide)
      (by decide)
    exact ⟨s, t, hs, ht, hiff.mpr (by decide)⟩
  · obtain ⟨s, t, hs, ht, -, hsame⟩ := renderComparison_isIn_eq_iff ⟨"products", "tags", .search⟩
      (fun _ => .fail .noFilterTable) ["a", "b", "c\\"] ["a,b", "c\\"] (by decide) (by decide)
      (by decide)
    exact ⟨s, t, hs, ht, fun heq => absurd (hsame (by decide) heq) (by decide)⟩

/-- A list of two strings is written like one that has a single string with a comma in it. -/
theorem renderComparison_isIn_alike :
    (renderComparison .standard (fun _ => .fail .noFilterTable) ⟨⟨"products", "tags", .search⟩,
        .isIn, .list (["a\\", "b"].map Literal.string)⟩).outcome = .ok "tags:[a\\,b]" ∧
      (renderComparison .standard (fun _ => .fail .noFilterTable) ⟨⟨"products", "tags", .search⟩,
        .isIn, .list (["a,b"].map Literal.string)⟩).outcome = .ok "tags:[a\\,b]" ∧
      ["a\\", "b"] ≠ ["a,b"] :=
  ⟨rfl, rfl, by decide⟩

end HybridQuery
