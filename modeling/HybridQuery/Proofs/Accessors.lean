import HybridQuery.Proofs.Declarations
import HybridQuery.Table.Code
import Mathlib.Data.List.Forall2

/-!
# Accessors of a declared table

The accessors of a table mirror the fields that are not skipped, one by one and in their order
(`Declaration.derive_mirrors`). A field's own column has the name it is given, or else the name of
the field. A raw name, as it is needed for a word of the language, stands for the name behind its
sign (`plainName`). The column of an accessor has the sign in its name, so that a comparison
through it names another column than the one of the field (`Declaration.derive_raw_field`). That
happens for no other field.
-/

namespace HybridQuery

/-! ## The names of columns -/

/-- A name that is taken as it stands, even if it is a word of the language. -/
def IsRaw (ident : String) : Prop :=
  ['r', '#'] <+: ident.toList

instance : DecidablePred IsRaw := fun ident =>
  inferInstanceAs (Decidable (['r', '#'] <+: ident.toList))

/-- The name that is meant, without the sign that it is taken as it stands. -/
def plainName (ident : String) : String :=
  if IsRaw ident then String.ofList (ident.toList.drop 2) else ident

theorem plainName_eq_self {ident : String} : plainName ident = ident ↔ ¬IsRaw ident := by
  unfold plainName
  split_ifs with hraw
  · refine iff_of_false (fun heq => ?_) (not_not_intro hraw)
    have hlength := congrArg (fun s : String => s.toList.length) heq
    have hlong : 2 ≤ ident.toList.length := hraw.length_le
    simp only [String.toList_ofList, List.length_drop] at hlength
    omega
  · exact iff_of_true rfl hraw

/-- The column of a field in the table `table`: it has the name that it is given, or the one of the
field. -/
def Field.ownColumn (f : Field) (table : String) : Column :=
  ⟨table, f.rename?.getD (plainName f.ident), if f.isSearch then .search else .relational⟩

/-- What an accessor has from its field. Its comparisons are those of the field's own column unless
the column is named by a raw name. -/
structure Accessor.Mirrors (tableName : String) (a : Accessor) (f : Field) : Prop where
  ident : a.ident = f.ident
  table : a.column.table = tableName
  name : a.column.name = f.rename?.getD f.ident
  engine : a.column.engine = .search ↔ f.isSearch = true
  compare : ∀ operator operand,
    a.column.compare operator operand = (f.ownColumn tableName).compare operator operand ↔
      f.rename?.isSome ∨ ¬IsRaw f.ident

theorem Field.accessor_mirrors (f : Field) (table : String) :
    (f.accessor table).Mirrors table f where
  ident := rfl
  table := rfl
  engine := by
    rw [accessor]
    cases f.isSearch <;> simp
  name := rfl
  compare operator operand := by
    have hcolumn : (f.accessor table).column.compare operator operand =
        (f.ownColumn table).compare operator operand ↔
          f.rename?.getD f.ident = f.rename?.getD (plainName f.ident) := by
      simp [Column.compare, accessor, ownColumn]
    rw [hcolumn]
    cases f.rename? with
    | some name => simp
    | none => simpa using eq_comm.trans plainName_eq_self

namespace Declaration

variable {d : Declaration} {t : Table}

/-- The table of an accepted declaration has an accessor for each field that is not skipped, in the
order of the fields, and the code is that of the accessors. A comparison through an accessor names
the column of the field exactly if the field is renamed or its name is not a raw one. -/
theorem derive_mirrors (h : d.derive = .ok t) :
    t.ident = d.ident ∧ t.name = d.names.head?.getD (snakeCase d.ident) ∧
      List.Forall₂ (Accessor.Mirrors t.name) t.accessors
        (d.fields.filter fun f => !f.isSkipped) ∧
      t.accessorCode = "# [allow (dead_code)] impl " ++ d.ident ++ " " ++
        braced ((d.fields.filter fun f => !f.isSkipped).map fun f => (f.accessor t.name).code) := by
  obtain ⟨-, rfl⟩ := derive_eq_ok.mp h
  refine ⟨rfl, rfl, ?_, ?_⟩
  · rw [List.forall₂_map_left_iff, List.forall₂_same]
    exact fun f _ => f.accessor_mirrors d.tableName
  · have hcodes : ∀ fields : List Field,
        (fields.map fun f => f.accessor d.tableName).map Accessor.code =
          fields.map fun f => (f.accessor d.tableName).code := fun fields => List.map_map
    unfold Table.accessorCode
    rw [hcodes]

/-- Fields that are renamed, skipped, marked for search, and named by a raw name. -/
theorem derive_mirrors_catalog :
    ∃ (d : Declaration) (t : Table) (id headline cached kind : Field),
      id = ⟨"id", []⟩ ∧ headline = ⟨"headline", [.search, .rename "title"]⟩ ∧
      cached = ⟨"cached", [.skip, .word "search"]⟩ ∧ kind = ⟨"r#type", [.rename "type", .search]⟩ ∧
      d = ⟨"CatalogEntry", ["catalog"], .named [id, headline, cached, kind]⟩ ∧
      t = ⟨"CatalogEntry", "catalog",
        [⟨"id", ⟨"catalog", "id", .relational⟩⟩, ⟨"headline", ⟨"catalog", "title", .search⟩⟩,
          ⟨"r#type", ⟨"catalog", "type", .search⟩⟩]⟩ ∧
      d.derive = .ok t ∧
      List.Forall₂ (Accessor.Mirrors "catalog") t.accessors [id, headline, kind] := by
  have h : derive ⟨"CatalogEntry", ["catalog"], .named [⟨"id", []⟩,
      ⟨"headline", [.search, .rename "title"]⟩, ⟨"cached", [.skip, .word "search"]⟩,
      ⟨"r#type", [.rename "type", .search]⟩]⟩ = .ok ⟨"CatalogEntry", "catalog",
        [⟨"id", ⟨"catalog", "id", .relational⟩⟩, ⟨"headline", ⟨"catalog", "title", .search⟩⟩,
          ⟨"r#type", ⟨"catalog", "type", .search⟩⟩]⟩ := rfl
  refine ⟨_, _, _, _, _, _, rfl, rfl, rfl, rfl, rfl, rfl, h, ?_⟩
  exact (derive_mirrors h).2.2.1

/-- The column of a field with a raw name that is not renamed is another one than its accessor
gives. -/
theorem derive_raw_field :
    ∃ (d : Declaration) (f : Field) (a : Accessor),
      d = ⟨"Log", ["log"], .named [f]⟩ ∧ f = ⟨"r#type", [.search]⟩ ∧
      d.derive = .ok ⟨"Log", "log", [a]⟩ ∧ a = ⟨"r#type", ⟨"log", "r#type", .search⟩⟩ ∧
      f.ownColumn "log" = ⟨"log", "type", .search⟩ ∧
      ∀ operator operand,
        a.column.compare operator operand ≠ (f.ownColumn "log").compare operator operand := by
  have h : derive ⟨"Log", ["log"], .named [⟨"r#type", [.search]⟩]⟩ =
      .ok ⟨"Log", "log", [⟨"r#type", ⟨"log", "r#type", .search⟩⟩]⟩ := rfl
  refine ⟨_, _, _, rfl, rfl, h, rfl, rfl, fun operator operand heq => ?_⟩
  have hown :=
    ((Field.accessor_mirrors ⟨"r#type", [.search]⟩ "log").compare operator operand).mp heq
  exact absurd hown (by decide)

end Declaration

end HybridQuery
