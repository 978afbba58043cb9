import GeneratedKeys.Proofs.ByteOrder
import GeneratedKeys.Proofs.Folding

/-!
# What a database finds

A database that has been filled with tables holds them in their order, under names that differ by
more than the case of letters. It finds those whose names fit, in the order of the bytes of the
names; or it answers with one of two errors of its engine.
-/
namespace GeneratedKeys

/-- The catalog of some tables, given by their names and the names of their columns. -/
def Catalog.ofNames (tables : List (Text × List Text)) : Catalog :=
  ⟨tables.map fun t => Table.ofNames t.1 t.2⟩

namespace Database
open Text Pattern

/-! ### Filling a database -/

/-- Tables whose names differ by more than the case of letters. -/
def Distinct (ts : List Table) : Prop :=
  (ts.map fun t => fold t.name).Nodup

theorem of_create? {db db' : Database} {name : Text} {columns : List Text}
    (h : db.create? name columns = some db') :
    db'.tables = db.tables ++ [Table.ofNames name columns] ∧
      ∀ t ∈ db.tables, fold t.name ≠ fold name := by
  unfold create? at h
  split at h
  · next hadmits =>
    cases h
    simp only [admits, Bool.and_eq_true, List.all_eq_true, bne_iff_ne] at hadmits
    exact ⟨rfl, hadmits.2⟩
  · cases h

theorem Distinct.concat {ts : List Table} {t : Table} (h : Distinct ts)
    (ht : ∀ u ∈ ts, fold u.name ≠ fold t.name) : Distinct (ts ++ [t]) := by
  unfold Distinct at h ⊢
  rw [List.map_append, List.nodup_append]
  refine ⟨h, by simp, ?_⟩
  intro a ha b hb
  obtain ⟨u, hu, rfl⟩ := List.mem_map.1 ha
  obtain rfl : b = fold t.name := by simpa using hb
  exact ht u hu

theorem of_foldlM {tables : List (Text × List Text)} {db db' : Database}
    (h : tables.foldlM (fun db t => db.create? t.1 t.2) db = some db')
    (hdb : Distinct db.tables) :
    db'.tables = db.tables ++ (Catalog.ofNames tables).tables ∧ Distinct db'.tables := by
  induction tables generalizing db with
  | nil =>
    cases h
    exact ⟨(List.append_nil _).symm, hdb⟩
  | cons t tables ih =>
    rw [List.foldlM_cons] at h
    obtain ⟨next, hnext, hrest⟩ := Option.bind_eq_some_iff.1 h
    obtain ⟨htables, hnew⟩ := of_create? hnext
    have hdistinct : Distinct next.tables := by
      rw [htables]
      exact hdb.concat hnew
    obtain ⟨hall, hfinal⟩ := ih hrest hdistinct
    refine ⟨?_, hfinal⟩
    rw [hall, htables, List.append_assoc]
    rfl

/-- A database that has been filled holds the tables of the catalog, which are distinct. -/
theorem of_ofTables? {tables : List (Text × List Text)} {db : Database}
    (h : ofTables? tables = some db) :
    db.tables = (Catalog.ofNames tables).tables ∧ Distinct db.tables := by
  have hempty : Distinct empty.tables := List.nodup_nil
  exact of_foldlM h hempty

/-! ### Looking up -/

/-- What looking a pattern up among tables can come to. -/
inductive Answers (ts : List Table) (pattern : Text) : Except LookupError (List Column) → Prop
  /-- The columns of the tables that fit, in the order of the bytes of their names. -/
  | found {us : List Table} : us.Perm (ts.filter fun t => fitsUpper pattern t.name) →
      (us.map fun t => toUtf8 t.name).Pairwise (· < ·) →
      Answers ts pattern (.ok (us.flatMap Table.columns))
  | patternTooLong : ts ≠ [] → maxPatternSize < pattern.size →
      Answers ts pattern (.error .patternTooLong)
  /-- Some table fits, and some table has the name of the function that lists columns. -/
  | functionHidden : (∃ t ∈ ts, fitsUpper pattern t.name = true) →
      (∃ t ∈ ts, fold t.name = columnFunction.toList) →
      Answers ts pattern (.error .functionHidden)

theorem found_perm (db : Database) (pattern : Text) :
    (db.found pattern).Perm (db.tables.filter fun t => fits pattern t.name) :=
  List.mergeSort_perm _ _

theorem name_ne_of_fold {t u : Table} (h : fold t.name ≠ fold u.name) : t.name ≠ u.name :=
  fun he => h (congrArg fold he)

theorem found_ordered (db : Database) (pattern : Text) :
    (db.found pattern).Pairwise fun t u => comesBefore u.name t.name = false := by
  have hle : ∀ t u : Table, (!comesBefore u.name t.name) = true ↔
      toUtf8 t.name ≤ toUtf8 u.name := by
    intro t u
    rw [Bool.not_eq_true', Bool.eq_false_iff, Ne, comesBefore_iff, List.not_lt]
  have hsorted := List.pairwise_mergeSort
    (fun t u v htu huv => (hle t v).2 (List.le_trans ((hle t u).1 htu) ((hle u v).1 huv)))
    (fun t u => by
      rw [Bool.or_eq_true, hle, hle]
      exact List.le_total _ _)
    (db.tables.filter fun t => fits pattern t.name)
  exact hsorted.imp fun h => by simpa using h

theorem found_pairwise {db : Database} (h : Distinct db.tables) (pattern : Text) :
    ((db.found pattern).map fun t => toUtf8 t.name).Pairwise (· < ·) := by
  have hfilter : Distinct (db.tables.filter fun t => fits pattern t.name) :=
    h.sublist (List.filter_sublist.map _)
  have hfound : Distinct (db.found pattern) :=
    ((db.found_perm pattern).map _).nodup_iff.2 hfilter
  rw [List.pairwise_map]
  have hboth := (db.found_ordered pattern).and (List.pairwise_map.1 hfound)
  exact hboth.imp fun ⟨hle, hne⟩ => lt_of_not_comesBefore (name_ne_of_fold hne) hle

/-- Looking a pattern up comes to one of the answers. -/
theorem answers_lookup {db : Database} (hdb : Distinct db.tables) (pattern : Text) :
    Answers db.tables pattern (db.lookup pattern) := by
  have hperm : (db.found pattern).Perm (db.tables.filter fun t => fitsUpper pattern t.name) := by
    simpa only [fits_eq_fitsUpper] using db.found_perm pattern
  unfold lookup
  split
  · next htakes =>
    simp only [takesPattern, Bool.not_eq_true', Bool.or_eq_false_iff, decide_eq_false_iff_not,
      List.isEmpty_eq_false_iff] at htakes
    exact .patternTooLong htakes.1 (by omega)
  · split
    · next hhides =>
      simp only [Bool.and_eq_true, Bool.not_eq_true', List.isEmpty_eq_false_iff, hidesFunction,
        List.any_eq_true, beq_iff_eq] at hhides
      obtain ⟨hne, hhidden⟩ := hhides
      obtain ⟨t, ht⟩ := List.exists_mem_of_ne_nil _ hne
      have hmem := List.mem_filter.1 (hperm.mem_iff.1 ht)
      exact .functionHidden ⟨t, hmem⟩ hhidden
    · exact .found hperm (found_pairwise hdb pattern)

theorem size_replicate (n : Nat) (c : Char) :
    Text.size (List.replicate n c) = n * c.utf8Size := by
  induction n with
  | zero => simp
  | succ n ih => rw [List.replicate_succ, size_cons, ih, Nat.succ_mul, Nat.add_comm]

/-- One table of one column, and a pattern in upper case. The engine fails where the table fits; it
fails where the pattern is too long; and it finds the table where the texts as they are written do
not fit, for it reads a pattern up to its first NUL and some characters as others. -/
theorem lookup_strays :
    (ofTables? [("PRAGMA_TABLE_INFO".toList, ["ID".toList])]).map
        (·.lookup "PRAGMA\\_TABLE\\_INFO".toList) = some (.error .functionHidden) ∧
      Catalog.fits "PRAGMA\\_TABLE\\_INFO".toList "PRAGMA_TABLE_INFO".toList = true ∧
    (ofTables? [("T".toList, ["ID".toList])]).map (·.lookup (List.replicate 50001 'A')) =
        some (.error .patternTooLong) ∧
    (ofTables? [("T".toList, ["ID".toList])]).map (·.lookup "T\x00X".toList) =
        some (.ok [⟨"ID".toList, 1⟩]) ∧
      Catalog.fits "T\x00X".toList "T".toList = false ∧
    (ofTables? [("\ufffe".toList, ["ID".toList])]).map (·.lookup "\ufffd".toList) =
        some (.ok [⟨"ID".toList, 1⟩]) ∧
      Catalog.fits "\ufffd".toList "\ufffe".toList = false := by
  have hlong : (ofTables? [("T".toList, ["ID".toList])]).map (·.lookup (List.replicate 50001 'A')) =
      some (.error .patternTooLong) := by
    have hdb : ofTables? [("T".toList, ["ID".toList])] =
        some ⟨[Table.ofNames "T".toList ["ID".toList]]⟩ := by
      decide +kernel
    have hsize : maxPatternSize < Text.size (List.replicate 50001 'A') := by
      rw [size_replicate]
      decide
    have htakes : takesPattern ⟨[Table.ofNames "T".toList ["ID".toList]]⟩
        (List.replicate 50001 'A') = false := by
      rw [takesPattern, List.isEmpty_cons, Bool.false_or, decide_eq_false_iff_not]
      omega
    rw [hdb, Option.map_some, lookup, htakes]
    rfl
  refine ⟨?_, ?_, hlong, ?_, ?_, ?_, ?_⟩
  all_goals decide +kernel

end Database
end GeneratedKeys
