import HybridQuery.Table.Declaration
import Mathlib.Data.List.Basic

/-!
# Accepted declarations

The options of a field are read one after another. `FieldOptions.Reads` says what one of them does.
From it follows which options have been read in the end (`FieldOptions.has_foldl`), that there is no
fault exactly if all of them are valid and none is given twice (`FieldOptions.faults_foldl`), and
which name the column has (`FieldOptions.rename_foldl`).

A declaration is accepted exactly if it is a structure with named fields that is named at most once
and whose fields are valid. Its table then has an accessor for each field that is not skipped
(`Declaration.derive_eq_ok`).
-/

namespace HybridQuery

/-! ## Options of a field -/

namespace ColumnOption

/-- The word that an option begins with. -/
def key : ColumnOption → String
  | .search => "search"
  | .skip => "skip"
  | .rename _ => "rename"
  | .word text => text

/-- The name that a column is given. -/
def rename? : ColumnOption → Option String
  | .rename name => some name
  | _ => none

/-- A known option, with a name if it needs one. -/
def IsValid (option : ColumnOption) : Prop :=
  option.key ∈ DeclarationFault.known ∧ option ≠ .word "rename"

instance : DecidablePred IsValid := fun option =>
  inferInstanceAs (Decidable (option.key ∈ DeclarationFault.known ∧ option ≠ .word "rename"))

end ColumnOption

namespace Field

variable (f : Field)

/-- The words that the options of the field begin with. -/
def keys : List String :=
  f.options.map ColumnOption.key

/-- The field is marked for search. -/
def isSearch : Bool :=
  f.keys.contains "search"

/-- The field has no accessor. -/
def isSkipped : Bool :=
  f.keys.contains "skip"

/-- The name that the column of the field is given. -/
def rename? : Option String :=
  f.options.findSome? ColumnOption.rename?

/-- Each of the options is valid and given once. -/
structure IsValid : Prop where
  options : ∀ option ∈ f.options, option.IsValid
  once : f.keys.Nodup

instance : DecidablePred IsValid := fun f =>
  decidable_of_iff ((∀ option ∈ f.options, option.IsValid) ∧ f.keys.Nodup)
    ⟨fun h => ⟨h.1, h.2⟩, fun h => ⟨h.1, h.2⟩⟩

end Field

/-! ## Reading the options -/

namespace FieldOptions

variable (o : FieldOptions)

/-- What the options become when one more is read. -/
inductive Reads (o : FieldOptions) : ColumnOption → FieldOptions → Prop
  | search {option : ColumnOption} (hkey : option.key = "search") (hvalid : option.IsValid)
    (hname : option.rename? = none) : Reads o option o.addSearch
  | skip {option : ColumnOption} (hkey : option.key = "skip") (hvalid : option.IsValid)
    (hname : option.rename? = none) : Reads o option o.addSkip
  | rename (name : String) : Reads o (.rename name) (o.addRename (some name))
  | bareRename : Reads o (.word "rename") (o.addRename none)
  | unknown {option : ColumnOption} (hkey : option.key ∉ DeclarationFault.known)
    (hname : option.rename? = none) (fault : DeclarationFault) : Reads o option (o.blame fault)

theorem reads_read (option : ColumnOption) : o.Reads option (o.read option) := by
  cases option with
  | search => exact .search rfl (by decide) rfl
  | skip => exact .skip rfl (by decide) rfl
  | rename name => exact .rename name
  | word text =>
    simp only [read]
    split_ifs with hsearch hskip hrename
    · subst hsearch
      exact .search rfl (by decide) rfl
    · subst hskip
      exact .skip rfl (by decide) rfl
    · subst hrename
      exact .bareRename
    · refine .unknown ?_ rfl _
      simp [ColumnOption.key, DeclarationFault.known, hsearch, hskip, hrename]

/-- An option that begins with this word has been read. -/
def Has (key : String) : Prop :=
  key = "search" ∧ o.search = true ∨ key = "skip" ∧ o.skip = true ∨
    key = "rename" ∧ o.renamed = true

theorem not_has_init (key : String) : ¬Has {} key := by
  simp [Has]

@[simp] theorem has_search : o.Has "search" ↔ o.search = true := by
  simp [Has]

@[simp] theorem has_skip : o.Has "skip" ↔ o.skip = true := by
  simp [Has]

theorem has_blame (fault : DeclarationFault) (key : String) :
    (o.blame fault).Has key ↔ o.Has key := Iff.rfl

theorem has_addSearch (key : String) : o.addSearch.Has key ↔ o.Has key ∨ key = "search" := by
  unfold addSearch
  split <;> simp only [Has, blame] <;> grind

theorem has_addSkip (key : String) : o.addSkip.Has key ↔ o.Has key ∨ key = "skip" := by
  unfold addSkip
  split <;> simp only [Has, blame] <;> grind

theorem has_addRename (name : Option String) (key : String) :
    (o.addRename name).Has key ↔ o.Has key ∨ key = "rename" := by
  unfold addRename
  split
  · simp only [Has, blame]; grind
  · cases name <;> simp only [Has, blame] <;> grind

/-- A known option is one of those that have been read from then on. -/
theorem has_read (option : ColumnOption) (key : String) : (o.read option).Has key ↔
    o.Has key ∨ key = option.key ∧ key ∈ DeclarationFault.known := by
  have hreads := o.reads_read option
  generalize o.read option = o' at hreads ⊢
  cases hreads with
  | search hkey =>
    rw [has_addSearch, hkey]
    grind [DeclarationFault.known]
  | skip hkey =>
    rw [has_addSkip, hkey]
    grind [DeclarationFault.known]
  | rename name =>
    rw [has_addRename]
    grind [DeclarationFault.known, ColumnOption.key]
  | bareRename =>
    rw [has_addRename]
    grind [DeclarationFault.known, ColumnOption.key]
  | unknown hkey =>
    rw [has_blame]
    grind

theorem faults_blame (fault : DeclarationFault) : (o.blame fault).faults ≠ [] :=
  List.append_ne_nil_of_right_ne_nil _ (List.cons_ne_nil _ _)

theorem faults_addSearch : o.addSearch.faults = [] ↔ o.faults = [] ∧ ¬o.Has "search" := by
  unfold addSearch
  split <;> simp [faults_blame, Has, *]

theorem faults_addSkip : o.addSkip.faults = [] ↔ o.faults = [] ∧ ¬o.Has "skip" := by
  unfold addSkip
  split <;> simp [faults_blame, Has, *]

theorem faults_addRename (name : String) :
    (o.addRename (some name)).faults = [] ↔ o.faults = [] ∧ ¬o.Has "rename" := by
  unfold addRename
  split <;> simp [faults_blame, Has, *]

theorem faults_addRename_none : (o.addRename none).faults ≠ [] := by
  unfold addRename
  split <;> exact faults_blame _ _

/-- An option is read without a fault if it is valid and has not been read before. -/
theorem faults_read (option : ColumnOption) : (o.read option).faults = [] ↔
    o.faults = [] ∧ option.IsValid ∧ ¬o.Has option.key := by
  have hreads := o.reads_read option
  generalize o.read option = o' at hreads ⊢
  cases hreads with
  | search hkey hvalid => rw [faults_addSearch, hkey, and_iff_right hvalid]
  | skip hkey hvalid => rw [faults_addSkip, hkey, and_iff_right hvalid]
  | rename name =>
    have hvalid : (ColumnOption.rename name).IsValid := ⟨List.mem_cons_self, by simp⟩
    rw [faults_addRename, and_iff_right hvalid, ColumnOption.key]
  | bareRename => exact iff_of_false (faults_addRename_none o) fun h => h.2.1.2 rfl
  | unknown hkey _ fault => exact iff_of_false (faults_blame o fault) fun h => hkey h.2.1.1

@[simp] theorem renamed_blame (fault : DeclarationFault) :
    (o.blame fault).renamed = o.renamed := rfl

@[simp] theorem rename_blame (fault : DeclarationFault) : (o.blame fault).rename = o.rename := rfl

@[simp] theorem renamed_addSearch : o.addSearch.renamed = o.renamed := by
  unfold addSearch
  split <;> rfl

@[simp] theorem rename_addSearch : o.addSearch.rename = o.rename := by
  unfold addSearch
  split <;> rfl

@[simp] theorem renamed_addSkip : o.addSkip.renamed = o.renamed := by
  unfold addSkip
  split <;> rfl

@[simp] theorem rename_addSkip : o.addSkip.rename = o.rename := by
  unfold addSkip
  split <;> rfl

/-- The first name is kept. -/
theorem rename_read (option : ColumnOption) : (o.read option).rename =
    if o.renamed then o.rename else option.rename?.or o.rename := by
  have hreads := o.reads_read option
  generalize o.read option = o' at hreads ⊢
  cases hreads with
  | search _ _ hname => simp [hname]
  | skip _ _ hname => simp [hname]
  | rename name =>
    rw [addRename]
    split <;> simp [ColumnOption.rename?, *]
  | bareRename =>
    rw [addRename]
    split <;> simp [ColumnOption.rename?, *]
  | unknown _ hname => simp [hname]

theorem renamed_read {option : ColumnOption} (h : option ≠ .word "rename") :
    (o.read option).renamed = (o.renamed || option.rename?.isSome) := by
  have hreads := o.reads_read option
  generalize o.read option = o' at hreads ⊢
  cases hreads with
  | search _ _ hname => simp [hname]
  | skip _ _ hname => simp [hname]
  | rename name =>
    rw [addRename]
    split <;> simp [ColumnOption.rename?, *]
  | bareRename => exact absurd rfl h
  | unknown _ hname => simp [hname]

/-! ### All options of a field -/

theorem has_foldl (key : String) : ∀ (options : List ColumnOption) (o : FieldOptions),
    (options.foldl read o).Has key ↔
      o.Has key ∨ key ∈ options.map ColumnOption.key ∧ key ∈ DeclarationFault.known
  | [], o => by simp
  | option :: rest, o => by
    rw [List.foldl_cons, has_foldl key rest, has_read, or_assoc, ← or_and_right, List.map_cons,
      List.mem_cons]

/-- Options are read without a fault if they are valid and differ in the words they begin with. -/
theorem faults_foldl : ∀ (options : List ColumnOption) (o : FieldOptions),
    (options.foldl read o).faults = [] ↔
      o.faults = [] ∧ (∀ option ∈ options, option.IsValid ∧ ¬o.Has option.key) ∧
        (options.map ColumnOption.key).Nodup
  | [], o => by simp
  | option :: rest, o => by
    rw [List.foldl_cons, faults_foldl rest, faults_read, List.forall_mem_cons, List.map_cons,
      List.nodup_cons, List.mem_map]
    simp only [has_read]
    -- that no later option has been read before is split into the first option and those before it
    constructor
    · rintro ⟨⟨hfaults, hvalid, hnew⟩, hrest, hnodup⟩
      refine ⟨hfaults, ⟨⟨hvalid, hnew⟩, fun other hother => ?_⟩, ?_, hnodup⟩
      · exact ⟨(hrest other hother).1, fun h => (hrest other hother).2 (.inl h)⟩
      · rintro ⟨other, hother, hkey⟩
        exact (hrest other hother).2 (.inr ⟨hkey, (hrest other hother).1.1⟩)
    · rintro ⟨hfaults, ⟨⟨hvalid, hnew⟩, hrest⟩, hkey, hnodup⟩
      refine ⟨⟨hfaults, hvalid, hnew⟩, fun other hother => ⟨(hrest other hother).1, ?_⟩, hnodup⟩
      rintro (hold | ⟨hsame, -⟩)
      · exact (hrest other hother).2 hold
      · exact hkey ⟨other, hother, hsame⟩

/-- The name is the first one that is given, if no bare word takes its place. -/
theorem rename_foldl : ∀ (options : List ColumnOption) (o : FieldOptions),
    .word "rename" ∉ options → (options.foldl read o).rename =
      if o.renamed then o.rename else (options.findSome? ColumnOption.rename?).or o.rename
  | [], o, _ => by simp
  | option :: rest, o, h => by
    obtain ⟨hoption, hrest⟩ := not_or.mp (List.mem_cons.not.mp h)
    rw [List.foldl_cons, rename_foldl rest _ hrest, rename_read, renamed_read o (Ne.symm hoption),
      List.findSome?_cons]
    cases o.renamed <;> cases option.rename? <;> simp

end FieldOptions

theorem DeclarationFault.together?_eq_none {faults : List DeclarationFault} :
    together? faults = none ↔ faults = [] := by
  match faults with
  | [] | [_] | _ :: _ :: _ => simp [together?]

namespace Field

variable {f : Field}

theorem has_read {key : String} (h : key ∈ DeclarationFault.known) :
    f.read.Has key ↔ key ∈ f.keys := by
  rw [read, FieldOptions.has_foldl, or_iff_right (FieldOptions.not_has_init key), and_iff_left h,
    keys]

theorem search_read : f.read.search = f.isSearch := by
  rw [Bool.eq_iff_iff, ← FieldOptions.has_search, has_read (by decide), isSearch,
    List.contains_iff_mem]

theorem skip_read : f.read.skip = f.isSkipped := by
  rw [Bool.eq_iff_iff, ← FieldOptions.has_skip, has_read (by decide), isSkipped,
    List.contains_iff_mem]

/-- A field has no fault exactly if it is valid. -/
theorem fault?_eq_none : f.fault? = none ↔ f.IsValid := by
  rw [fault?, Option.map_eq_none_iff, DeclarationFault.together?_eq_none, read,
    FieldOptions.faults_foldl]
  simp only [FieldOptions.not_has_init, not_false_eq_true, and_true, true_and]
  exact ⟨fun ⟨hoptions, honce⟩ => ⟨hoptions, honce⟩, fun ⟨hoptions, honce⟩ => ⟨hoptions, honce⟩⟩

/-- An option is given twice, whichever way it is written. -/
example : ¬(Field.mk "price" [.search, .rename "cost", .word "search"]).IsValid := by decide

theorem rename_read (h : f.IsValid) : f.read.rename = f.rename? := by
  have hword : .word "rename" ∉ f.options := fun hmem => (h.options _ hmem).2 rfl
  rw [read, FieldOptions.rename_foldl f.options {} hword]
  exact Option.or_none

/-- The accessor that a field has unless it is skipped. -/
def accessor (f : Field) (table : String) : Accessor :=
  ⟨f.ident,
    ⟨table, f.rename?.getD f.ident, if f.isSearch then .search else .relational⟩⟩

theorem accessor?_of_isValid (h : f.IsValid) (table : String) :
    f.accessor? table = if !f.isSkipped then some (f.accessor table) else none := by
  rw [accessor?, skip_read, search_read, rename_read h, accessor]
  cases f.isSkipped <;> rfl

end Field

/-! ## Accepted declarations -/

namespace Declaration

/-- A structure with named fields, named at most once, and with valid options. -/
structure IsValid (d : Declaration) : Prop where
  named : ∃ fields, d.body = .named fields
  names : d.names.length ≤ 1
  fields : ∀ f ∈ d.fields, f.IsValid

variable {d : Declaration} {t : Table}

theorem faults_eq_nil :
    d.faults = [] ↔ (∃ fields, d.body = .named fields) ∧ d.names.length ≤ 1 := by
  obtain ⟨ident, names, body⟩ := d
  cases body <;> simp [faults, Nat.sub_eq_zero_iff_le]

/-- The declarations that stand for a table are the valid ones. Its accessors are those of the
fields that are not skipped. -/
theorem derive_eq_ok : d.derive = .ok t ↔ d.IsValid ∧
    t = ⟨d.ident, d.tableName,
      (d.fields.filter fun f => !f.isSkipped).map fun f => f.accessor d.tableName⟩ := by
  have haccessors (h : ∀ f ∈ d.fields, f.IsValid) :
      d.fields.filterMap (Field.accessor? d.tableName) =
        (d.fields.filter fun f => !f.isSkipped).map fun f => f.accessor d.tableName := by
    rw [List.filterMap_congr fun f hf => Field.accessor?_of_isValid (h f hf) d.tableName,
      ← List.filterMap_filter, List.filterMap_eq_map']
  have hvalid : d.IsValid ↔ d.faults = [] ∧ d.fields.filterMap Field.fault? = [] := by
    simp only [faults_eq_nil, List.filterMap_eq_nil_iff, Field.fault?_eq_none]
    exact ⟨fun h => ⟨⟨h.named, h.names⟩, h.fields⟩, fun h => ⟨h.1.1, h.1.2, h.2⟩⟩
  rw [hvalid, ← DeclarationFault.together?_eq_none, ← DeclarationFault.together?_eq_none, derive]
  cases hfaults : DeclarationFault.together? d.faults with
  | some fault => simp
  | none =>
    cases hfields : DeclarationFault.together? (d.fields.filterMap Field.fault?) with
    | some fault => simp
    | none =>
      rw [DeclarationFault.together?_eq_none] at hfaults hfields
      rw [← haccessors (hvalid.mpr ⟨hfaults, hfields⟩).fields]
      simp [eq_comm]

end Declaration

end HybridQuery
