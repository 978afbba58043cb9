import GeneratedKeys.Catalog.Loading

/-!
# What a catalog file holds

A catalog is loaded from a file that holds a text, whose document lists tables. Every column has its
own position or takes its place in the list; the catalog is had as a whole, and only if no position
is below 1.
-/
namespace GeneratedKeys

/-- All columns of a table have positions from 1 on. -/
def Table.IsPositive (t : Table) : Prop :=
  ∀ column ∈ t.columns, 1 ≤ column.position

namespace Catalog

/-- A listed column with its own position, or else with its place in the list. -/
def ListedColumn.placed (c : ListedColumn) (place : Nat) : Column :=
  ⟨c.name, c.position.getD place⟩

def ListedTable.placed (t : ListedTable) : Table :=
  ⟨t.name, (t.columns.zipIdx 1).map fun c => c.1.placed c.2⟩

/-- The catalog that a list of tables stands for, whatever the positions are. -/
def placed (tables : List ListedTable) : Catalog :=
  ⟨tables.map ListedTable.placed⟩

def IsPositive (c : Catalog) : Prop :=
  ∀ t ∈ c.tables, t.IsPositive

theorem map_eq_ok_iff {ε α β : Type} {f : α → β} {x : Except ε α} {b : β} :
    x.map f = .ok b ↔ ∃ a, x = .ok a ∧ f a = b := by
  cases x with
  | error e => simp [Except.map]
  | ok a => simp [Except.map]

theorem placeColumns_eq_ok_iff {table : Text} {k : Nat} {listed : List ListedColumn}
    {columns : List Column} : placeColumns table k listed = .ok columns ↔
      columns = ((listed.zipIdx k).map fun c => c.1.placed c.2) ∧
        ∀ column ∈ columns, 1 ≤ column.position := by
  induction listed generalizing k columns with
  | nil =>
    rw [placeColumns, Except.ok.injEq, List.zipIdx_nil, List.map_nil, eq_comm]
    refine (and_iff_left_of_imp ?_).symm
    rintro rfl
    exact fun _ h => absurd h List.not_mem_nil
  | cons c listed ih =>
    have hplace : (k : Int) + 1 = ((k + 1 : Nat) : Int) := rfl
    rw [placeColumns, List.zipIdx_cons, List.map_cons, ListedColumn.placed]
    split
    · next hlow =>
      refine iff_of_false (fun h => by cases h) ?_
      rintro ⟨rfl, hpositive⟩
      have hfirst : 1 ≤ c.position.getD k := hpositive _ List.mem_cons_self
      omega
    · next hlow =>
      simp only [map_eq_ok_iff, hplace, ih]
      constructor
      · rintro ⟨rest, ⟨rfl, hrest⟩, rfl⟩
        have hfirst : 1 ≤ c.position.getD k := by omega
        exact ⟨rfl, List.forall_mem_cons.2 ⟨hfirst, hrest⟩⟩
      · rintro ⟨rfl, hpositive⟩
        exact ⟨_, ⟨rfl, (List.forall_mem_cons.1 hpositive).2⟩, rfl⟩

theorem placeTable_eq_ok_iff {listed : ListedTable} {t : Table} :
    placeTable listed = .ok t ↔ t = listed.placed ∧ t.IsPositive := by
  have hone : placeColumns listed.name 1 listed.columns =
      placeColumns listed.name (1 : Nat) listed.columns := rfl
  simp only [placeTable, hone, map_eq_ok_iff, placeColumns_eq_ok_iff]
  constructor
  · rintro ⟨columns, ⟨rfl, hpositive⟩, rfl⟩
    exact ⟨rfl, hpositive⟩
  · rintro ⟨rfl, hpositive⟩
    exact ⟨_, ⟨rfl, hpositive⟩, rfl⟩

theorem mapM_placeTable_eq_ok_iff {tables : List ListedTable} {ts : List Table} :
    tables.mapM placeTable = .ok ts ↔
      ts = tables.map ListedTable.placed ∧ ∀ t ∈ ts, t.IsPositive := by
  induction tables generalizing ts with
  | nil =>
    rw [List.mapM_nil, List.map_nil]
    constructor
    · intro h
      cases h
      exact ⟨rfl, fun _ h => absurd h List.not_mem_nil⟩
    · rintro ⟨rfl, -⟩
      rfl
  | cons listed tables ih =>
    have hcons : (listed :: tables).mapM placeTable = .ok ts ↔
        ∃ t, placeTable listed = .ok t ∧ ∃ rest, tables.mapM placeTable = .ok rest ∧
          t :: rest = ts := by
      rw [List.mapM_cons]
      cases placeTable listed with
      | error e => simp [bind, Except.bind]
      | ok t => cases tables.mapM placeTable <;> simp [bind, Except.bind, pure, Except.pure]
    rw [hcons, List.map_cons]
    simp only [placeTable_eq_ok_iff, ih]
    constructor
    · rintro ⟨t, ⟨rfl, ht⟩, rest, ⟨rfl, hrest⟩, rfl⟩
      exact ⟨rfl, List.forall_mem_cons.2 ⟨ht, hrest⟩⟩
    · rintro ⟨rfl, hpositive⟩
      obtain ⟨ht, hrest⟩ := List.forall_mem_cons.1 hpositive
      exact ⟨_, ⟨rfl, ht⟩, _, ⟨rfl, hrest⟩, rfl⟩

/-- Listed tables make a catalog if all their positions are good, and no other catalog than theirs. -/
theorem ofListing_eq_ok_iff {tables : List ListedTable} {c : Catalog} :
    ofListing tables = .ok c ↔ c = placed tables ∧ c.IsPositive := by
  simp only [ofListing, map_eq_ok_iff, mapM_placeTable_eq_ok_iff]
  constructor
  · rintro ⟨ts, ⟨rfl, hpositive⟩, rfl⟩
    exact ⟨rfl, hpositive⟩
  · rintro ⟨rfl, hpositive⟩
    exact ⟨_, ⟨rfl, hpositive⟩, rfl⟩

/-- A file that makes a catalog holds a text, whose document lists the tables. -/
theorem ofFile_eq_ok_iff {file : Option ByteArray} {c : Catalog} :
    ofFile file = .ok c ↔ ∃ bytes t tables, file = some bytes ∧ Text.ofUtf8? bytes = some t ∧
      (Json.read? t).bind listedTables? = some tables ∧ c = placed tables ∧ c.IsPositive := by
  cases file with
  | none => simp [ofFile]
  | some bytes =>
    cases htext : Text.ofUtf8? bytes with
    | none => simp [ofFile, htext]
    | some t =>
      cases htables : (Json.read? t).bind listedTables? with
      | none => simp [ofFile, htext, ofText, htables]
      | some tables => simp [ofFile, htext, ofText, htables, ofListing_eq_ok_iff]

end Catalog
end GeneratedKeys
