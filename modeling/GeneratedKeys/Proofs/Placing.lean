import GeneratedKeys.Proofs.Documents
import GeneratedKeys.Proofs.Loading
import GeneratedKeys.Proofs.Records

/-!
# What loading a text comes to

A text is a catalog document or it is not, whatever positions stand in it. A document spoils the
catalog with the first of its columns, over all tables, whose position is below 1, and is loaded
as a whole if there is none. What a catalog document is, is told by its records and their fields.
-/
namespace GeneratedKeys

/-- The first column of a table whose position is below 1. -/
def Table.misplaced? (t : Table) : Option Column :=
  t.columns.find? fun column => column.position < 1

theorem Table.misplaced?_eq_none_iff {t : Table} : t.misplaced? = none ↔ t.IsPositive := by
  simp only [misplaced?, IsPositive, List.find?_eq_none, decide_eq_true_eq, Int.not_lt]

namespace Catalog

/-! ### The first misplaced column -/

/-- The first column whose position is below 1, and its table. -/
def misplaced? (c : Catalog) : Option (Table × Column) :=
  c.tables.findSome? fun t => t.misplaced?.map (t, ·)

/-- A column of a table is below 1, and all columns before it are not: those above it in its table
and those of the tables before. -/
def IsFirstMisplaced (c : Catalog) (table : Table) (column : Column) : Prop :=
  ∃ before after above below, c.tables = before ++ table :: after ∧
    table.columns = above ++ column :: below ∧ column.position < 1 ∧
    (∀ t ∈ before, t.IsPositive) ∧ ∀ d ∈ above, 1 ≤ d.position

theorem misplaced?_eq_some_iff {c : Catalog} {table : Table} {column : Column} :
    c.misplaced? = some (table, column) ↔ c.IsFirstMisplaced table column := by
  simp only [misplaced?, List.findSome?_eq_some_iff, Option.map_eq_some_iff, Option.map_eq_none_iff,
    Table.misplaced?_eq_none_iff, Prod.mk.injEq]
  constructor
  · rintro ⟨before, t, after, htables, ⟨d, hd, rfl, rfl⟩, hbefore⟩
    obtain ⟨hlow, above, below, hcolumns, habove⟩ := List.find?_eq_some_iff_append.1 hd
    refine ⟨before, after, above, below, htables, hcolumns, of_decide_eq_true hlow, hbefore, ?_⟩
    intro e he
    simpa using habove e he
  · rintro ⟨before, after, above, below, htables, hcolumns, hlow, hbefore, habove⟩
    refine ⟨before, table, after, htables, ⟨column, ?_, rfl, rfl⟩, hbefore⟩
    refine List.find?_eq_some_iff_append.2 ⟨decide_eq_true hlow, above, below, hcolumns, ?_⟩
    intro e he
    simpa using habove e he

/-- The error that a misplaced column is reported by. -/
def LoadError.ofMisplaced (table : Text) (column : Column) : LoadError :=
  .badPosition table column.name column.position

theorem map_eq_error_iff {ε α β : Type} {f : α → β} {x : Except ε α} {e : ε} :
    x.map f = .error e ↔ x = .error e := by
  cases x with
  | error d => simp [Except.map]
  | ok a => simp [Except.map]

theorem placeColumns_eq_error_iff {table : Text} {k : Nat} {listed : List ListedColumn}
    {e : LoadError} : placeColumns table k listed = .error e ↔
      ∃ column, ((listed.zipIdx k).map fun c => c.1.placed c.2).find?
        (fun column => column.position < 1) = some column ∧ e = .ofMisplaced table column := by
  induction listed generalizing k with
  | nil => simp [placeColumns]
  | cons c listed ih =>
    have hplace : (k : Int) + 1 = ((k + 1 : Nat) : Int) := rfl
    rw [placeColumns, List.zipIdx_cons, List.map_cons, List.find?_cons, ListedColumn.placed]
    by_cases hlow : c.position.getD (k : Int) < 1
    · simp only [hlow, if_true, decide_true, Except.error.injEq, Option.some.injEq]
      constructor
      · rintro rfl
        exact ⟨_, rfl, rfl⟩
      · rintro ⟨column, rfl, rfl⟩
        rfl
    · simp only [hlow, if_false, decide_false, map_eq_error_iff, hplace]
      exact ih

theorem placeTable_eq_error_iff {listed : ListedTable} {e : LoadError} :
    placeTable listed = .error e ↔
      ∃ column, listed.placed.misplaced? = some column ∧ e = .ofMisplaced listed.name column := by
  have hone : placeColumns listed.name 1 listed.columns =
      placeColumns listed.name (1 : Nat) listed.columns := rfl
  rw [placeTable, hone, map_eq_error_iff, placeColumns_eq_error_iff]
  rfl

theorem mapM_placeTable_eq_error_iff {tables : List ListedTable} {e : LoadError} :
    tables.mapM placeTable = .error e ↔
      ∃ table column, (placed tables).misplaced? = some (table, column) ∧
        e = .ofMisplaced table.name column := by
  induction tables with
  | nil => simp [placed, misplaced?, pure, Except.pure]
  | cons listed tables ih =>
    rw [List.mapM_cons]
    cases htable : placeTable listed with
    | error d =>
      obtain ⟨column, hcolumn, rfl⟩ := placeTable_eq_error_iff.1 htable
      have hfirst : (placed (listed :: tables)).misplaced? = some (listed.placed, column) := by
        simp [placed, misplaced?, hcolumn]
      rw [hfirst]
      constructor
      · intro h
        cases h
        exact ⟨listed.placed, column, rfl, rfl⟩
      · rintro ⟨_, _, hsame, rfl⟩
        cases hsame
        rfl
    | ok t =>
      obtain ⟨rfl, hpositive⟩ := placeTable_eq_ok_iff.1 htable
      have hskip : (placed (listed :: tables)).misplaced? = (placed tables).misplaced? := by
        simp [placed, misplaced?, Table.misplaced?_eq_none_iff.2 hpositive]
      rw [hskip, ← ih]
      cases tables.mapM placeTable with
      | error d => rfl
      | ok ts => exact iff_of_false (fun h => by cases h) (fun h => by cases h)

/-- Listed tables are refused for the first of their columns that is misplaced. -/
theorem ofListing_eq_error_iff {tables : List ListedTable} {e : LoadError} :
    ofListing tables = .error e ↔
      ∃ table column, (placed tables).IsFirstMisplaced table column ∧
        e = .badPosition table.name column.name column.position := by
  simp only [ofListing, map_eq_error_iff, mapM_placeTable_eq_error_iff, misplaced?_eq_some_iff,
    LoadError.ofMisplaced]

/-! ### Catalog documents -/

/-- A document lists a column: it is the column's name, or an object with its name and perhaps its
position, everything in which has a value. -/
inductive ListsColumn : Json → ListedColumn → Prop
  | name (name : Text) : ListsColumn (.string (some name)) ⟨name, none⟩
  | unplaced {fields : List Json.Field} {name : Text} :
      Json.isReadable columnDepth (.object fields) = true →
      Json.IsField fields "name".toList (.string (some name)) →
      ((∀ f ∈ fields, f.1 ≠ some "position".toList) ∨
        Json.IsField fields "position".toList .null) →
      ListsColumn (.object fields) ⟨name, none⟩
  | placed {fields : List Json.Field} {name : Text} {number : Json.Number} {position : Int} :
      Json.isReadable columnDepth (.object fields) = true →
      Json.IsField fields "name".toList (.string (some name)) →
      Json.IsField fields "position".toList (.number number) →
      number.toInt32? = some position →
      ListsColumn (.object fields) ⟨name, some position⟩

/-- A document lists a table: it is a record of its name and of a list of its columns. -/
def ListsTable (j : Json) (t : ListedTable) : Prop :=
  ∃ columns, Json.IsRecord ["name", "columns"] j [.string (some t.name), .array columns] ∧
    List.Forall₂ ListsColumn columns t.columns

/-- A document lists tables: it is a record of a list of them. -/
def ListsTables (j : Json) (tables : List ListedTable) : Prop :=
  ∃ items, Json.IsRecord ["tables"] j [.array items] ∧ List.Forall₂ ListsTable items tables

theorem listedColumn?_eq_some_iff {j : Json} {c : ListedColumn} :
    listedColumn? j = some c ↔ ListsColumn j c := by
  cases j with
  | string s =>
    rw [listedColumn?, Option.map_eq_some_iff]
    constructor
    · rintro ⟨name, rfl, rfl⟩
      exact .name name
    · rintro ⟨name⟩
      exact ⟨name, rfl, rfl⟩
  | object fields =>
    rw [listedColumn?]
    constructor
    · intro h
      split at h
      · next hreadable =>
        obtain ⟨v, hv, h⟩ := Option.bind_eq_some_iff.1 h
        obtain ⟨name, hname, h⟩ := Option.bind_eq_some_iff.1 h
        rw [Json.text?_eq_some_iff.1 hname, Json.valueOf?_eq_some_iff] at hv
        split at h
        · next hnone =>
          cases h
          exact .unplaced hreadable hv (.inl (Json.valuesOf_eq_nil_iff.1 hnone))
        · next hnull =>
          cases h
          exact .unplaced hreadable hv (.inr (Json.valuesOf_eq_singleton_iff.1 hnull))
        · next position hnull hposition =>
          obtain ⟨n, hn, h⟩ := Option.bind_eq_some_iff.1 h
          cases h
          obtain ⟨number, rfl, hnumber⟩ := Json.int32?_eq_some_iff.1 hn
          exact .placed hreadable hv (Json.valuesOf_eq_singleton_iff.1 hposition) hnumber
        · cases h
      · cases h
    · intro h
      cases h with
      | unplaced hreadable hname hposition =>
        simp only [if_pos hreadable, Json.valueOf?_eq_some_iff.2 hname]
        rcases hposition with hnone | hnull
        · simp only [Json.valuesOf_eq_nil_iff.2 hnone]
          rfl
        · simp only [Json.valuesOf_eq_singleton_iff.2 hnull]
          rfl
      | placed hreadable hname hposition hnumber =>
        simp only [if_pos hreadable, Json.valueOf?_eq_some_iff.2 hname,
          Json.valuesOf_eq_singleton_iff.2 hposition]
        simp [Json.text?, Json.int32?, hnumber]
  | _ =>
    constructor
    · intro h
      cases h
    · intro h
      cases h

theorem listedTable?_eq_some_iff {j : Json} {t : ListedTable} :
    listedTable? j = some t ↔ ListsTable j t := by
  constructor
  · intro h
    unfold listedTable? at h
    split at h
    · next name columns hrecord =>
      obtain ⟨text, htext, h⟩ := Option.bind_eq_some_iff.1 h
      obtain ⟨items, hitems, h⟩ := Option.bind_eq_some_iff.1 h
      obtain ⟨listed, hlisted, h⟩ := Option.bind_eq_some_iff.1 h
      cases h
      rw [Json.text?_eq_some_iff.1 htext, Json.list?_eq_some_iff.1 hitems,
        Json.record?_eq_some_iff] at hrecord
      have hcolumns := Json.mapM_eq_some_iff.1 hlisted
      exact ⟨items, hrecord, hcolumns.imp fun _ _ => listedColumn?_eq_some_iff.1⟩
    · cases h
  · rintro ⟨items, hrecord, hcolumns⟩
    have hlisted : items.mapM listedColumn? = some t.columns :=
      Json.mapM_eq_some_iff.2 (hcolumns.imp fun _ _ => listedColumn?_eq_some_iff.2)
    simp [listedTable?, Json.record?_eq_some_iff.2 hrecord, Json.text?, Json.list?, hlisted]

theorem listedTables?_eq_some_iff {j : Json} {tables : List ListedTable} :
    listedTables? j = some tables ↔ ListsTables j tables := by
  constructor
  · intro h
    unfold listedTables? at h
    split at h
    · next items hrecord =>
      obtain ⟨listed, hlisted, h⟩ := Option.bind_eq_some_iff.1 h
      rw [Json.list?_eq_some_iff.1 hlisted, Json.record?_eq_some_iff] at hrecord
      have htables := Json.mapM_eq_some_iff.1 h
      exact ⟨listed, hrecord, htables.imp fun _ _ => listedTable?_eq_some_iff.1⟩
    · cases h
  · rintro ⟨items, hrecord, htables⟩
    have hlisted : items.mapM listedTable? = some tables :=
      Json.mapM_eq_some_iff.2 (htables.imp fun _ _ => listedTable?_eq_some_iff.2)
    simp [listedTables?, Json.record?_eq_some_iff.2 hrecord, Json.list?, hlisted]

/-! ### Loading -/

/-- A text is a document that lists tables. -/
def Lists (t : Text) (tables : List ListedTable) : Prop :=
  ∃ j, Json.Piece.Cuts t j.pieces ∧ ListsTables j tables

theorem bind_listedTables?_eq_some_iff {t : Text} {tables : List ListedTable} :
    (Json.read? t).bind listedTables? = some tables ↔ Lists t tables := by
  simp only [Option.bind_eq_some_iff, Json.read?_eq_some_iff, listedTables?_eq_some_iff, Lists]

/-- What comes of a text: nothing if it lists no tables; the error of the first column that is
misplaced; or, where there is none, the tables as listed, every column at its own position or at
its place in the list. -/
inductive Loads (t : Text) : Except LoadError Catalog → Prop
  | malformed : (∀ tables, ¬ Lists t tables) → Loads t (.error .malformed)
  | misplaced {tables : List ListedTable} {table : Table} {column : Column} : Lists t tables →
      (placed tables).IsFirstMisplaced table column →
      Loads t (.error (.badPosition table.name column.name column.position))
  | placed {tables : List ListedTable} : Lists t tables → (placed tables).IsPositive →
      Loads t (.ok (placed tables))

theorem ofText_of_lists {t : Text} {tables : List ListedTable} (h : Lists t tables) :
    ofText t = ofListing tables := by
  simp only [ofText, bind_listedTables?_eq_some_iff.2 h]

theorem ofText_of_not_lists {t : Text} (h : ∀ tables, ¬ Lists t tables) :
    ofText t = .error .malformed := by
  have hnone : (Json.read? t).bind listedTables? = none := by
    rw [Option.eq_none_iff_forall_ne_some]
    exact fun tables htables => h tables (bind_listedTables?_eq_some_iff.1 htables)
  simp only [ofText, hnone]

theorem ofText_eq_iff {t : Text} {r : Except LoadError Catalog} : ofText t = r ↔ Loads t r := by
  constructor
  · rintro rfl
    by_cases hlists : ∃ tables, Lists t tables
    · obtain ⟨tables, htables⟩ := hlists
      rw [ofText_of_lists htables]
      cases hlisting : ofListing tables with
      | error e =>
        obtain ⟨table, column, hfirst, rfl⟩ := ofListing_eq_error_iff.1 hlisting
        exact .misplaced htables hfirst
      | ok c =>
        obtain ⟨rfl, hpositive⟩ := ofListing_eq_ok_iff.1 hlisting
        exact .placed htables hpositive
    · have hnone : ∀ tables, ¬ Lists t tables := not_exists.1 hlists
      rw [ofText_of_not_lists hnone]
      exact .malformed hnone
  · rintro (hnone | ⟨htables, hfirst⟩ | ⟨htables, hpositive⟩)
    · exact ofText_of_not_lists hnone
    · rw [ofText_of_lists htables]
      exact ofListing_eq_error_iff.2 ⟨_, _, hfirst, rfl⟩
    · rw [ofText_of_lists htables]
      exact ofListing_eq_ok_iff.2 ⟨rfl, hpositive⟩

/-- Loading a text comes to its error or to its catalog and to nothing else, and no catalog that is
loaded, from a text or from a file, has a position below 1. -/
theorem loads_exactly :
    (∀ (t : Text) (r : Except LoadError Catalog), ofText t = r ↔ Loads t r) ∧
      (∀ (t : Text) (c : Catalog), ofText t = .ok c → c.IsPositive) ∧
        ∀ (file : Option ByteArray) (c : Catalog), ofFile file = .ok c → c.IsPositive := by
  refine ⟨fun t r => ofText_eq_iff, fun t c h => ?_, fun file c h => ?_⟩
  · cases ofText_eq_iff.1 h with
    | placed _ hpositive => exact hpositive
  · obtain ⟨_, _, _, _, _, _, _, hpositive⟩ := ofFile_eq_ok_iff.1 h
    exact hpositive

/-- A column is refused for the position given to it, in the second table, behind one that takes its
place; a file without positions is loaded. -/
theorem loads_exactly_spoilt :
    let spoilt := ("[[\x7b\"columns\":[\x7b\"position\":7,\"name\":\"X\"\x7d]," ++
      "\"name\":\"A\"\x7d,[\"B\",[\"Y\",\x7b\"name\":\"Z\",\"position\":0\x7d]]]]").toList
    let bytes := "[[[\"A\",[\"X\",\"Y\"]]]]".toUTF8
    Loads spoilt (.error (.badPosition ['B'] ['Z'] 0)) ∧
      ofFile (some bytes) = .ok ⟨[Table.ofNames ['A'] [['X'], ['Y']]]⟩ ∧
      IsPositive ⟨[Table.ofNames ['A'] [['X'], ['Y']]]⟩ := by
  intro spoilt bytes
  have hspoilt : ofText spoilt = .error (.badPosition ['B'] ['Z'] 0) := by decide +kernel
  have hfile : ofFile (some bytes) = .ok ⟨[Table.ofNames ['A'] [['X'], ['Y']]]⟩ := by
    decide +kernel
  obtain ⟨htexts, -, hfiles⟩ := loads_exactly
  exact ⟨(htexts _ _).1 hspoilt, hfile, hfiles _ _ hfile⟩

end Catalog
end GeneratedKeys
