import GeneratedKeys.Proofs.Agreement

/-!
# The table of a statement in a database

A database that is filled by creating tables, some of which may be refused, has one table at most
for every name up to the case of letters. The pattern for the table of a statement has no wildcard
left, so it finds that table or none, unless the engine takes characters of the name for others or
fails.
-/
namespace GeneratedKeys

namespace Column

/-- The positions of numbered columns are 1, 2, 3 and so on. -/
theorem map_position_numbered (names : List Text) :
    (numbered names).map Column.position = (List.range' 1 names.length).map Int.ofNat := by
  have hfrom : ∀ n : Nat, (numberedFrom n names).map Column.position =
      (List.range' n names.length).map Int.ofNat := by
    induction names with
    | nil => exact fun _ => rfl
    | cons name names ih =>
      intro n
      rw [numberedFrom_cons, List.map_cons, List.length_cons, List.range'_succ, List.map_cons]
      exact congrArg _ (ih (n + 1))
  exact hfrom 1

theorem length_numbered (names : List Text) : (numbered names).length = names.length := by
  have hnames := congrArg List.length (map_name_numberedFrom 1 names)
  rwa [List.length_map] at hnames

end Column

/-! ### The denoted name -/

namespace TableName
open Text Token

/-- A table's name as a statement has it, and the name that it denotes: what stands between its
quotes, or a word in upper case. -/
inductive Denotes : Text → Text → Prop
  | quoted {name : Text} : name ≠ [] → Denotes ('\x22' :: (name ++ ['\x22'])) name
  | word {w : Text} : IsWord w → Denotes w (upper w)

theorem trim_quotes (name : Text) :
    trim ('\x22' :: (name ++ ['\x22'])) = '\x22' :: (name ++ ['\x22']) := by
  have hquote : isBlank '\x22' = false := by decide
  simp [trim, trimEnd, hquote]

theorem Denotes.denoted_eq {written name : Text} (h : Denotes written name) :
    denoted written = name := by
  cases h with
  | quoted hne =>
    have hsize : 3 ≤ Text.size ('\x22' :: (name ++ ['\x22'])) := by
      have hpos := List.length_pos_iff.2 hne
      have hle := length_le_size ('\x22' :: (name ++ ['\x22']))
      rw [List.length_cons, List.length_append, List.length_singleton] at hle
      omega
    have hlast : ('\x22' :: (name ++ ['\x22'])).getLast? = some '\x22' := by
      rw [← List.cons_append, List.getLast?_concat]
    simp only [denoted, trim_quotes]
    rw [if_pos ⟨hsize, rfl, hlast⟩, interior_quotes]
  | word hw => exact denoted_of_isWord hw

/-- The table of a statement is written as a quoted name or as a word. -/
theorem denotes_of_read {sql : Text} {s : Statement} (h : Statement.read sql = .ok s) :
    Denotes s.table (denoted s.table) := by
  obtain ⟨k, hi, hspells⟩ := Statement.spells_of_read h
  rcases hspells.isWord_or_quoted hi with hw | ⟨content, hne, hquoted⟩
  · rw [denoted_of_isWord hw]
    exact .word hw
  · have hdenotes : Denotes s.table (Quoted.double '\x22' content) :=
      hquoted ▸ .quoted (double_ne_nil hne)
    rw [hdenotes.denoted_eq]
    exact hdenotes

end TableName

namespace Database
open Text TableName Token Pattern

/-! ### What the pattern of a name fits -/

theorem isWildcard_readChar (c : Char) : isWildcard (readChar c) = isWildcard c := by
  unfold readChar
  split
  · next hc =>
    rcases hc with rfl | rfl
    · decide +kernel
    · decide +kernel
  · rfl

theorem readChar_of_isWildcard {c : Char} (h : isWildcard c = true) : readChar c = c := by
  rcases eq_of_isWildcard h with rfl | rfl | rfl
  · decide +kernel
  · decide +kernel
  · decide +kernel

/-- It makes no difference whether a name is escaped before it is read. -/
theorem readText_escapeWildcards (t : Text) :
    readText (escapeWildcards t) = escapeWildcards (readText t) := by
  have hslash : readChar '\x5c' = '\x5c' := readChar_of_isWildcard (by decide)
  unfold readText
  induction t with
  | nil => rfl
  | cons c t ih =>
    rw [List.map_cons, escapeWildcards, escapeWildcards, isWildcard_readChar, ← ih]
    split
    · rw [List.map_cons, List.map_cons, hslash]
    · rw [List.map_cons]

theorem takeWhile_escapeWildcards (t : Text) :
    (escapeWildcards t).takeWhile (· != terminator) =
      escapeWildcards (t.takeWhile (· != terminator)) := by
  have hslash : ('\x5c' != terminator) = true := by decide
  induction t with
  | nil => rfl
  | cons c t ih =>
    by_cases hc : c = terminator
    · have hw : isWildcard terminator = false := by decide
      subst hc
      simp [escapeWildcards, hw]
    · have hne : (c != terminator) = true := by simpa using hc
      rw [List.takeWhile_cons, if_pos hne, escapeWildcards, escapeWildcards, ← ih]
      split
      · rw [List.takeWhile_cons, if_pos hslash, List.takeWhile_cons, if_pos hne]
      · rw [List.takeWhile_cons, if_pos hne]

theorem readPattern_escapeWildcards (t : Text) :
    readPattern (escapeWildcards t) = escapeWildcards (readPattern t) := by
  rw [readPattern, takeWhile_escapeWildcards, readText_escapeWildcards, readPattern]

theorem forall₂_sameLetter_iff {t name : Text} :
    List.Forall₂ (fun c d => sameLetter c d = true) t name ↔ fold name = fold t := by
  have hfold : fold name = fold t ↔ List.Forall₂ (· = ·) (fold t) (fold name) := by
    rw [List.forall₂_eq_eq_eq, @eq_comm _ (fold name)]
  rw [hfold, fold, fold, List.forall₂_map_left_iff, List.forall₂_map_right_iff]
  simp only [sameLetter, beq_iff_eq]

/-- The pattern for a name fits the names that the engine reads as it does this one, up to the case
of letters. -/
theorem fits_escapeWildcards_iff (t name : Text) :
    fits (escapeWildcards t) name = true ↔ fold (readText name) = fold (readPattern t) := by
  have hitems : patternItems (escapeWildcards t) =
      ofText .never (readPattern (escapeWildcards t)) := rfl
  rw [fits, accepts_iff_fits, hitems, readPattern_escapeWildcards, ofText_escapeWildcards,
    fits_map_exactly, forall₂_sameLetter_iff]
  rfl

/-! ### Names that are read as they are -/

/-- The characters that the engine takes for another one, and that one. -/
def misread : List Char :=
  ['\ufffd', '\ufffe', '\uffff']

/-- A name that the engine reads as it is, and no other name as. -/
def IsPlain (name : Text) : Prop :=
  ∀ c ∈ name, c ≠ terminator ∧ c ∉ misread

theorem isPlain_of_isWord {w : Text} (h : IsWord w) : IsPlain (upper w) := by
  intro c hc
  rw [← denoted_of_isWord h] at hc
  have hsettled := isSettled_denoted h c hc
  have hall : (misread.all fun d => isSettled d == false) = true := by decide
  refine ⟨ne_terminator_of_isSettled hsettled, fun hmem => ?_⟩
  have hfalse := beq_iff_eq.1 (List.all_eq_true.1 hall c hmem)
  rw [hsettled] at hfalse
  cases hfalse

theorem toLower_of_le {c : Char} (hc : ¬ c.toNat < 0x80) : c.toLower = c := by
  have hupper : ¬ c.isUpper = true := by
    rw [Char.isUpper, decide_eq_true_eq, ge_iff_le, UInt32.le_iff_toNat_le,
      UInt32.le_iff_toNat_le]
    rintro ⟨-, hz⟩
    exact hc (Nat.lt_of_le_of_lt hz (by decide))
  exact Char.toLower_eq_of_not_isUpper hupper

/-- No character other than itself has a character beyond ASCII for its lower case. -/
theorem toLower_ne {c d : Char} (hd : ¬ d.toNat < 0x80) (h : c ≠ d) : c.toLower ≠ d := by
  by_cases hc : c.toNat < 0x80
  · have hlower : c.toLower.toNat < 0x80 :=
      of_ascii (p := fun c => c.toLower.toNat < 0x80) (by decide +kernel) hc
    rintro rfl
    exact hd hlower
  · rwa [toLower_of_le hc]

theorem toLower_readChar_eq_iff {c : Char} (hc : c ∉ misread) (d : Char) :
    (readChar d).toLower = c.toLower ↔ d.toLower = c.toLower := by
  simp only [misread, List.mem_cons, List.not_mem_nil, or_false, not_or] at hc
  have hreplacement : c.toLower ≠ '\ufffd' := toLower_ne (by decide) hc.1
  have hfirst : c.toLower ≠ '\ufffe' := toLower_ne (by decide) hc.2.1
  have hsecond : c.toLower ≠ '\uffff' := toLower_ne (by decide) hc.2.2
  unfold readChar
  split
  · next hd =>
    refine iff_of_false (Ne.symm hreplacement) ?_
    rcases hd with rfl | rfl
    · exact Ne.symm hfirst
    · exact Ne.symm hsecond
  · rfl

theorem readChar_of_not_mem {c : Char} (hc : c ∉ misread) : readChar c = c := by
  simp only [misread, List.mem_cons, List.not_mem_nil, or_false, not_or] at hc
  exact if_neg (not_or.2 hc.2)

theorem readPattern_of_isPlain {name : Text} (h : IsPlain name) : readPattern name = name := by
  have htake : name.takeWhile (· != terminator) = name := by
    apply List.takeWhile_eq_self_iff.2
    intro c hc
    simpa using (h c hc).1
  have hread : ∀ c ∈ name, readChar c = c := fun c hc =>
    readChar_of_not_mem (h c hc).2
  rw [readPattern, htake, readText, List.map_congr_left hread, List.map_id']

/-- A plain name is read as no other name is. -/
theorem fold_readText_eq_iff {name : Text} (h : IsPlain name) (t : Text) :
    fold (readText t) = fold (readPattern name) ↔ fold t = fold name := by
  rw [readPattern_of_isPlain h]
  unfold fold readText
  induction name generalizing t with
  | nil => simp
  | cons c name ih =>
    cases t with
    | nil => simp
    | cons d t =>
      have hc := toLower_readChar_eq_iff (h c List.mem_cons_self).2 d
      have hname := ih (fun e he => h e (List.mem_cons_of_mem c he)) t
      simp only [List.map_cons, List.cons.injEq, hc, hname]

/-! ### Creating tables -/

/-- The definitions of a list whose tables were created. -/
def accepted (db : Database) (definitions : List (Text × List Text)) : List (Text × List Text) :=
  ((definitions.zip (db.createAll definitions).2).filter Prod.snd).map Prod.fst

/-- Where creating a table keeps a property of databases, so does creating tables in turn. -/
theorem createAll_induction {P : Database → Prop}
    (hstep : ∀ db db' name columns, create? db name columns = some db' → P db → P db')
    (definitions : List (Text × List Text)) {db : Database} (h : P db) :
    P (db.createAll definitions).1 := by
  induction definitions generalizing db with
  | nil => exact h
  | cons t rest ih =>
    unfold createAll
    split
    · next db' hdb => exact ih (hstep db db' t.1 t.2 hdb h)
    · exact ih h

/-- A database holds the tables whose definitions it accepted, in their order. -/
theorem tables_createAll (definitions : List (Text × List Text)) (db : Database) :
    (db.createAll definitions).1.tables =
      db.tables ++ (Catalog.ofNames (db.accepted definitions)).tables := by
  induction definitions generalizing db with
  | nil => exact (List.append_nil _).symm
  | cons t rest ih =>
    unfold accepted createAll
    split
    · next db' hdb =>
      rw [ih db', (of_create? hdb).1, List.append_assoc]
      rfl
    · exact ih db

/-- The tables of a database differ by more than the case of letters, and each has columns. -/
structure IsWellFormed (db : Database) : Prop where
  distinct : Distinct db.tables
  columns_ne_nil : ∀ t ∈ db.tables, t.columns ≠ []

theorem isWellFormed_empty : empty.IsWellFormed :=
  ⟨List.nodup_nil, fun _ ht => absurd ht List.not_mem_nil⟩

theorem columns_ne_nil_of_create? {db db' : Database} {name : Text} {columns : List Text}
    (h : db.create? name columns = some db') : columns ≠ [] := by
  rintro rfl
  unfold create? at h
  split at h
  · next hadmits => simp [admits, admitsColumns] at hadmits
  · cases h

theorem IsWellFormed.create? {db db' : Database} {name : Text} {columns : List Text}
    (h : db.create? name columns = some db') (hdb : db.IsWellFormed) : db'.IsWellFormed := by
  obtain ⟨htables, hnew⟩ := of_create? h
  refine ⟨?_, ?_⟩
  · rw [htables]
    exact hdb.distinct.concat hnew
  · rw [htables]
    intro t ht
    rcases List.mem_append.1 ht with ht | ht
    · exact hdb.columns_ne_nil t ht
    · obtain rfl := List.mem_singleton.1 ht
      have hlength := Column.length_numbered columns
      have hpos := List.length_pos_iff.2 (columns_ne_nil_of_create? h)
      exact List.length_pos_iff.1 (hlength ▸ hpos)

theorem isWellFormed_createAll (definitions : List (Text × List Text)) :
    (empty.createAll definitions).1.IsWellFormed :=
  createAll_induction (fun _ _ _ _ h hdb => hdb.create? h) definitions isWellFormed_empty

/-! ### The table of a statement -/

/-- What looking up the pattern for a name among tables can come to. -/
inductive Resolves (ts : List Table) (name : Text) : Except LookupError (List Column) → Prop
  | missing : IsPlain name → (∀ t ∈ ts, fold t.name ≠ fold name) → Resolves ts name (.ok [])
  /-- The columns of the one table that has the name. -/
  | single {t : Table} : IsPlain name → t ∈ ts → fold t.name = fold name →
      (∀ u ∈ ts, fold u.name = fold name → u = t) → Resolves ts name (.ok t.columns)
  /-- The columns of the tables that the engine takes for the named one, in the order of the bytes
  of their names. -/
  | alike {us : List Table} : ¬ IsPlain name →
      us.Perm (ts.filter fun t => fold (readText t.name) = fold (readPattern name)) →
      (us.map fun t => toUtf8 t.name).Pairwise (· < ·) →
      Resolves ts name (.ok (us.flatMap Table.columns))
  | patternTooLong : ts ≠ [] → maxPatternSize < Text.size (escapeWildcards name) →
      Resolves ts name (.error .patternTooLong)
  /-- Some table is found, and some table has the name of the function that lists columns. -/
  | functionHidden : (∃ t ∈ ts, fold (readText t.name) = fold (readPattern name)) →
      (∃ t ∈ ts, fold t.name = columnFunction.toList) →
      Resolves ts name (.error .functionHidden)

theorem Distinct.eq_of_fold {ts : List Table} (h : Distinct ts) {t u : Table} (ht : t ∈ ts)
    (hu : u ∈ ts) (hfold : fold t.name = fold u.name) : t = u :=
  List.inj_on_of_nodup_map h ht hu hfold

/-- The tables of one name are one or none. -/
theorem Distinct.filter_eq {ts : List Table} (h : Distinct ts) (name : Text) :
    (∀ t ∈ ts, fold t.name ≠ fold name) ∧ ts.filter (fun t => fold t.name = fold name) = [] ∨
      ∃ t ∈ ts, fold t.name = fold name ∧ (∀ u ∈ ts, fold u.name = fold name → u = t) ∧
        ts.filter (fun t => fold t.name = fold name) = [t] := by
  by_cases hnone : ∀ t ∈ ts, fold t.name ≠ fold name
  · left
    refine ⟨hnone, List.filter_eq_nil_iff.2 fun t ht => ?_⟩
    simpa using hnone t ht
  · right
    push Not at hnone
    obtain ⟨t, ht, hname⟩ := hnone
    have honly : ∀ u ∈ ts, fold u.name = fold name → u = t := fun u hu hfold =>
      h.eq_of_fold hu ht (hfold.trans hname.symm)
    refine ⟨t, ht, hname, honly, ?_⟩
    have hnodup : ts.Nodup := h.of_map _
    have hfilter : ts.filter (fun u => fold u.name = fold name) = ts.filter fun u => u = t := by
      apply List.filter_congr
      intro u hu
      rw [decide_eq_decide]
      refine ⟨honly u hu, ?_⟩
      rintro rfl
      exact hname
    rw [hfilter, List.filter_eq, List.count_eq_one_of_mem hnodup ht, List.replicate_one]

theorem fitsUpper_pattern_iff {written name : Text} (h : Denotes written name) (t : Text) :
    fitsUpper (pattern written) t = true ↔ fold (readText t) = fold (readPattern name) := by
  rw [← fits_eq_fitsUpper, pattern_eq, h.denoted_eq, fits_escapeWildcards_iff]

/-- Looking up the pattern for a name among distinct tables finds the table of that name. -/
theorem resolves_of_answers {ts : List Table} (hts : Distinct ts) {written name : Text}
    (h : Denotes written name) {result : Except LookupError (List Column)}
    (hresult : Answers ts (pattern written) result) : Resolves ts name result := by
  cases hresult with
  | patternTooLong hne hsize =>
    rw [pattern_eq, h.denoted_eq] at hsize
    exact .patternTooLong hne hsize
  | functionHidden hfits hhidden =>
    simp only [fitsUpper_pattern_iff h] at hfits
    exact .functionHidden hfits hhidden
  | @found us hperm hsorted =>
    have hread : (ts.filter fun t => fitsUpper (pattern written) t.name) =
        ts.filter fun t => fold (readText t.name) = fold (readPattern name) := by
      apply List.filter_congr
      intro t _
      rw [Bool.eq_iff_iff, fitsUpper_pattern_iff h, decide_eq_true_eq]
    rw [hread] at hperm
    by_cases hplain : IsPlain name
    -- A plain name is read as no other is, so the tables found are those of the name: one or none.
    · simp only [fold_readText_eq_iff hplain] at hperm
      rcases hts.filter_eq name with ⟨hnone, hnil⟩ | ⟨t, ht, hname, honly, hone⟩
      · rw [hnil] at hperm
        rw [List.perm_nil.1 hperm]
        exact .missing hplain hnone
      · rw [hone] at hperm
        rw [hperm.eq_singleton, List.flatMap_singleton]
        exact .single hplain ht hname honly
    · exact .alike hplain hperm hsorted

/-- The table of a statement is looked up among the tables that a database accepted. -/
theorem lookup_resolves {sql : Text} {s : Statement} (hread : Statement.read sql = .ok s)
    (definitions : List (Text × List Text)) :
    let db := (empty.createAll definitions).1
    db.tables = (Catalog.ofNames (empty.accepted definitions)).tables ∧
      (∀ t ∈ db.tables, t.columns ≠ [] ∧
        t.columns.map Column.position = (List.range' 1 t.columns.length).map Int.ofNat) ∧
      ∃ name, Denotes s.table name ∧ (IsWord s.table → IsPlain name) ∧
        Resolves db.tables name (db.lookup (pattern s.table)) := by
  intro db
  have hdb : db.IsWellFormed := isWellFormed_createAll definitions
  have htables : db.tables = (Catalog.ofNames (empty.accepted definitions)).tables :=
    tables_createAll definitions empty
  have hdenotes := denotes_of_read hread
  refine ⟨htables, fun t ht => ⟨hdb.columns_ne_nil t ht, ?_⟩, _, hdenotes, ?_, ?_⟩
  · rw [htables] at ht
    obtain ⟨u, -, rfl⟩ := List.mem_map.1 ht
    rw [Table.ofNames, Column.map_position_numbered, Column.length_numbered]
  · intro hword
    rw [denoted_of_isWord hword]
    exact isPlain_of_isWord hword
  · exact resolves_of_answers hdb.distinct hdenotes (answers_lookup hdb.distinct _)

/-- Two definitions are refused, for their name is taken or they have no columns, and of the tables
that are there the name is to be found with its case and its underscore. -/
theorem lookup_resolves_refused :
    let definitions := [("T_1".toList, ["A".toList, "b".toList]), ("t_1".toList, ["X".toList]),
      ("U".toList, []), ("TX1".toList, ["Y".toList])]
    let db := (empty.createAll definitions).1
    Statement.read "DELETE FROM \"t_1\"".toList =
        .ok ⟨.delete, none, "\"t_1\"".toList, false⟩ ∧
      empty.accepted definitions =
        [("T_1".toList, ["A".toList, "b".toList]), ("TX1".toList, ["Y".toList])] ∧
      db.tables = (Catalog.ofNames (empty.accepted definitions)).tables ∧
      ∃ name, Denotes "\"t_1\"".toList name ∧
        Resolves db.tables name (.ok [⟨"A".toList, 1⟩, ⟨"b".toList, 2⟩]) := by
  intro definitions db
  have hread : Statement.read "DELETE FROM \"t_1\"".toList =
      .ok ⟨.delete, none, "\"t_1\"".toList, false⟩ := by
    decide +kernel
  have hlookup : db.lookup (pattern "\"t_1\"".toList) =
      .ok [⟨"A".toList, 1⟩, ⟨"b".toList, 2⟩] := by
    decide +kernel
  obtain ⟨htables, -, name, hdenotes, -, hresolves⟩ := lookup_resolves hread definitions
  exact ⟨hread, by decide +kernel, htables, name, hdenotes, hlookup ▸ hresolves⟩

/-- The columns of two tables for one name; those of a table of another name; and an error, for the
one table of the name and for a name without a table. -/
theorem lookup_misses :
    let created (definitions : List (Text × List Text)) := (empty.createAll definitions).1
    let alike := created [("\ufffe".toList, ["A".toList]), ("\uffff".toList, ["B".toList])]
    let single := created [("T".toList, ["ID".toList])]
    let hidden := created [("pragma_table_info".toList, ["ID".toList])]
    let long := Quoted.write '\x22' (List.replicate 50001 'A')
    (Statement.read "DELETE FROM \"\ufffe\"".toList =
        .ok ⟨.delete, none, "\"\ufffe\"".toList, false⟩ ∧
      denoted "\"\ufffe\"".toList = "\ufffe".toList ∧
      alike.lookup (pattern "\"\ufffe\"".toList) = .ok [⟨"A".toList, 1⟩, ⟨"B".toList, 1⟩]) ∧
    (Statement.read "DELETE FROM \"T\x00X\"".toList =
        .ok ⟨.delete, none, "\"T\x00X\"".toList, false⟩ ∧
      denoted "\"T\x00X\"".toList = "T\x00X".toList ∧
      single.lookup (pattern "\"T\x00X\"".toList) = .ok [⟨"ID".toList, 1⟩]) ∧
    (Statement.read "DELETE FROM pragma_table_info".toList =
        .ok ⟨.delete, none, "pragma_table_info".toList, false⟩ ∧
      hidden.lookup (pattern "pragma_table_info".toList) = .error .functionHidden) ∧
    Spells (.quotedIdentifier (List.replicate 50001 'A')) long ∧
      single.lookup (pattern long) = .error .patternTooLong := by
  intro created alike single hidden long
  have hlong : List.replicate 50001 'A' ≠ [] := by
    rw [List.replicate_succ]
    exact List.cons_ne_nil _ _
  refine ⟨⟨by decide +kernel, by decide +kernel, ?alike⟩, ?terminated, ?hidden,
    .quotedIdentifier hlong, ?long⟩
  case alike =>
    have hfound : alike.found (pattern "\"\ufffe\"".toList) = alike.tables := by
      have hfilter : (alike.tables.filter fun t => fits (pattern "\"\ufffe\"".toList) t.name) =
          alike.tables := by
        decide +kernel
      rw [found, hfilter]
      exact List.mergeSort_of_pairwise (by decide +kernel)
    have hhides : alike.hidesFunction = false := by decide +kernel
    rw [lookup, hfound, hhides]
    decide +kernel
  case terminated => decide +kernel
  case hidden => decide +kernel
  case long =>
    have hwritten : long = '\x22' :: (List.replicate 50001 'A' ++ ['\x22']) := by
      have hdouble := @double_of_not_mem '\x22' (List.replicate 50001 'A') fun h =>
        absurd (List.eq_of_mem_replicate h) (by decide)
      rw [← hdouble]
      rfl
    have hdenotes : Denotes long (List.replicate 50001 'A') := hwritten ▸ .quoted hlong
    have hpattern : pattern long = List.replicate 50001 'A' := by
      rw [pattern_eq, hdenotes.denoted_eq]
      apply escapeWildcards_of_not_isWildcard
      intro c hc
      rw [List.eq_of_mem_replicate hc]
      rfl
    have htables : single.tables.isEmpty = false := by decide +kernel
    have htakes : single.takesPattern (pattern long) = false := by
      rw [takesPattern, htables, hpattern, size_replicate]
      decide
    rw [lookup, htakes]
    rfl

end Database
end GeneratedKeys
