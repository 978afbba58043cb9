import GeneratedKeys.Command.Run
import GeneratedKeys.Proofs.Agreement
import GeneratedKeys.Proofs.Failures
import GeneratedKeys.Proofs.Loading

/-!
# How commands end

A command that has been read prints the text of a query on a line of its own, or it reports one
trouble and prints nothing. Of the troubles the source's come before the statement's, and these
before the query's. A query of a command is refused for an unknown flag and for nothing else, so
with a source whose lookups do not fail there is no other trouble.
-/
namespace GeneratedKeys.Command
open Query

/-- What a command puts on its output. -/
def Exit.output : Exit → Text
  | .printed output => output
  | .failed _ | .refused => []

variable {s : Surroundings Id}

/-! ### The source -/

/-- The sources that can be had where a command looks for one. -/
inductive Loads (s : Surroundings Id) : Origin → Source → Prop
  | nowhere : Loads s .nowhere (.catalog .empty)
  /-- A catalog that a file holds whose text is a document with good positions. -/
  | catalog {path t : Text} {bytes : ByteArray} {tables : List Catalog.ListedTable} :
      s.file path = some bytes → Text.ofUtf8? bytes = some t →
      (Json.read? t).bind Catalog.listedTables? = some tables →
      (Catalog.placed tables).IsPositive →
      Loads s (.catalog path) (.catalog (Catalog.placed tables))
  | database {url : Text} {source : Source} : connect? s url = some source →
      Loads s (.database url) source

/-- The trouble with a source that cannot be had. -/
inductive Reports : Origin → Trouble → Prop
  | loading (path : Text) : Reports (.catalog path) (.loading path)
  | connecting (url : Text) : Reports (.database url) (.connecting url)

theorem loadSource_catalog (path : Text) : loadSource s (.catalog path) =
    (match Catalog.ofFile (s.file path) with
    | .ok c => .ok (.catalog c)
    | .error _ => .error (.loading path) : Except Trouble Source) := by
  unfold loadSource
  cases h : Catalog.ofFile (s.file path) with
  | ok c => simp [h, bind, pure]
  | error e => simp [h, bind, pure]

theorem loadSource_database (url : Text) : loadSource s (.database url) =
    (match connect? s url with
    | some source => .ok source
    | none => .error (.connecting url) : Except Trouble Source) := by
  unfold loadSource
  cases h : connect? s url with
  | some source => simp [h, bind, pure]
  | none => simp [h, bind, pure]

theorem loadSource_eq_ok_iff {origin : Origin} {source : Source} :
    loadSource s origin = .ok source ↔ Loads s origin source := by
  constructor
  · intro h
    cases origin with
    | nowhere =>
      cases h
      exact .nowhere
    | catalog path =>
      rw [loadSource_catalog] at h
      split at h
      · next c hc =>
        cases h
        obtain ⟨bytes, t, tables, hfile, htext, htables, rfl, hpositive⟩ :=
          Catalog.ofFile_eq_ok_iff.1 hc
        exact .catalog hfile htext htables hpositive
      · cases h
    | database url =>
      rw [loadSource_database] at h
      split at h
      · next hconnect =>
        cases h
        exact .database hconnect
      · cases h
  · intro h
    cases h with
    | nowhere => rfl
    | @catalog path t bytes tables hfile htext htables hpositive =>
      have hc : Catalog.ofFile (s.file path) = .ok (Catalog.placed tables) :=
        Catalog.ofFile_eq_ok_iff.2 ⟨bytes, t, tables, hfile, htext, htables, rfl, hpositive⟩
      rw [loadSource_catalog, hc]
    | database hconnect => rw [loadSource_database, hconnect]

theorem reports_of_loadSource {origin : Origin} {t : Trouble}
    (h : loadSource s origin = .error t) : Reports origin t := by
  cases origin with
  | nowhere => cases h
  | catalog path =>
    rw [loadSource_catalog] at h
    split at h
    · cases h
    · cases h
      exact .loading path
  | database url =>
    rw [loadSource_database] at h
    split at h
    · cases h
    · cases h
      exact .connecting url

/-! ### The statement -/

/-- The statement that can be had: the one given, or the text of the input up to the blanks at its
end. -/
inductive Gives (s : Surroundings Id) : Option Text → Text → Prop
  | given (sql : Text) : Gives s (some sql) sql
  | input {sql blanks : Text} : Text.ofUtf8? s.input = some (sql ++ blanks) →
      (∀ c ∈ blanks, Text.isBlank c = true) →
      (∀ c, sql.getLast? = some c → Text.isBlank c = false) → Gives s none sql

theorem exists_blanks (t : Text) : ∃ blanks, t = Text.trimEnd t ++ blanks ∧
    (∀ c ∈ blanks, Text.isBlank c = true) ∧
    ∀ c, (Text.trimEnd t).getLast? = some c → Text.isBlank c = false := by
  refine ⟨(t.reverse.takeWhile Text.isBlank).reverse, ?_, ?_, ?_⟩
  · rw [Text.trimEnd, ← List.reverse_append, List.takeWhile_append_dropWhile, List.reverse_reverse]
  · intro c hc
    exact List.mem_takeWhile_imp (List.mem_reverse.1 hc)
  · intro c hc
    rw [Text.trimEnd, List.getLast?_reverse] at hc
    have hhead := List.head?_dropWhile_not Text.isBlank t.reverse
    rw [hc] at hhead
    simpa using hhead

theorem trimEnd_append {sql blanks : Text} (hblanks : ∀ c ∈ blanks, Text.isBlank c = true)
    (hlast : ∀ c, sql.getLast? = some c → Text.isBlank c = false) :
    Text.trimEnd (sql ++ blanks) = sql := by
  have hreverse : ∀ c ∈ blanks.reverse, Text.isBlank c = true := fun c hc =>
    hblanks c (List.mem_reverse.1 hc)
  rw [Text.trimEnd, List.reverse_append, List.dropWhile_append_of_pos hreverse]
  have hsql : sql.reverse.dropWhile Text.isBlank = sql.reverse := by
    cases hr : sql.reverse with
    | nil => rfl
    | cons c rest =>
      have hc : Text.isBlank c = false := by
        apply hlast
        rw [← List.head?_reverse, hr, List.head?_cons]
      rw [List.dropWhile_cons, if_neg (by simp [hc])]
  rw [hsql, List.reverse_reverse]

theorem loadStatement_none : loadStatement s none =
    (match Text.ofUtf8? s.input with
    | some t => .ok (Text.trimEnd t)
    | none => .error .reading : Except Trouble Text) := by
  unfold loadStatement
  cases h : Text.ofUtf8? s.input with
  | some t => simp [h, bind, pure]
  | none => simp [h, bind, pure]

theorem loadStatement_eq_ok_iff {given : Option Text} {sql : Text} :
    loadStatement s given = .ok sql ↔ Gives s given sql := by
  constructor
  · intro h
    cases given with
    | some sql =>
      cases h
      exact .given _
    | none =>
      rw [loadStatement_none] at h
      split at h
      · next t ht =>
        cases h
        obtain ⟨blanks, heq, hblanks, hlast⟩ := exists_blanks t
        exact .input (heq ▸ ht) hblanks hlast
      · cases h
  · intro h
    cases h with
    | given => rfl
    | input htext hblanks hlast =>
      rw [loadStatement_none, htext]
      exact congrArg Except.ok (trimEnd_append hblanks hlast)

theorem eq_reading_of_loadStatement {given : Option Text} {t : Trouble}
    (h : loadStatement s given = .error t) : t = .reading := by
  cases given with
  | some sql => cases h
  | none =>
    rw [loadStatement_none] at h
    split at h
    · cases h
    · cases h
      rfl

/-! ### The query -/

/-- A source answers whatever a query for a statement looks up. -/
def Supplies (source : Source) (sql : Text) (request : Request) : Prop :=
  ∀ selection statement, request.selection true = .ok selection → selection.isLookedUp = true →
    Statement.read sql = .ok statement → statement.returning = false →
      ∃ columns, source.lookup (TableName.pattern statement.table) = .ok columns

/-- A flag, if one is asked for, is one of the two that are known. -/
def IsKnown (request : Request) : Prop :=
  ∀ n, request = .flag n → n = 1 ∨ n = 2

theorem isKnown_iff {request : Request} :
    IsKnown request ↔ ∃ selection, request.selection true = .ok selection := by
  constructor
  · intro h
    cases hs : request.selection true with
    | ok selection => exact ⟨selection, rfl⟩
    | error e =>
      cases Refused.of_error hs with
      | flag n hn =>
        rcases h n rfl with rfl | rfl
        · exact absurd rfl hn.1
        · exact absurd rfl hn.2
      | unavailable _ hread => cases hread
  · rintro ⟨selection, hs⟩ n rfl
    by_contra hn
    rw [not_or] at hn
    rw [(Refused.flag n hn).selection] at hs
    cases hs

/-- A query that keeps no keys keeps the statement. -/
theorem outcome_none (lookup : Text → Except String (List Column)) (sql : Text) :
    ∃ generatesKeys, outcome .builtin lookup sql .none = .ok ⟨generatesKeys, sql⟩ := by
  unfold outcome
  split
  · exact ⟨false, rfl⟩
  · split
    · exact ⟨true, rfl⟩
    · exact ⟨false, rfl⟩

theorem selection_eq_none_of_noKeys {request : Request}
    (h : request = .wish .noKeys ∨ request = .flag 2) : request.selection true = .ok .none := by
  rcases h with rfl | rfl
  · rfl
  · rfl

/-- The query of a command is made and processed once, with a result. -/
theorem exists_answer {source : Source} {sql : Text} {request : Request} (hknown : IsKnown request)
    (hsupplies : Supplies source sql request) :
    ∃ q r, make Support.builtin.isLoaded sql request = .ok q ∧
      (q.process (source.backend .builtin)).2 = .ok r ∧ answer source sql request = .ok r := by
  obtain ⟨selection, hs⟩ := isKnown_iff.1 hknown
  have hmake : make Support.builtin.isLoaded sql request = .ok (ofSelection sql selection) := by
    have hloaded : Support.builtin.isLoaded = true := rfl
    rw [hloaded, make, hs]
    rfl
  cases hp : ((ofSelection sql selection).process (source.backend .builtin)).2 with
  | ok r =>
    refine ⟨_, r, hmake, hp, ?_⟩
    rw [answer, hmake]
    exact hp
  | error e =>
    -- Processing fails for a lookup only, and the source has the answer to it.
    rw [process_backend, outcome_eq_error_iff] at hp
    obtain ⟨hlooked, statement, hstatement, hreturning, cause, hcause, -⟩ := hp
    have hread : Statement.read sql = .ok statement := read_of_statement? hstatement
    obtain ⟨columns, hcolumns⟩ := hsupplies selection statement hs hlooked hread hreturning
    rw [hcolumns] at hcause
    cases hcause

theorem answer_of_not_isKnown {source : Source} {sql : Text} {request : Request}
    (h : ¬ IsKnown request) :
    ∃ n, request = .flag n ∧ n ≠ 1 ∧ n ≠ 2 ∧ answer source sql request = .error (.invalidFlag n) := by
  cases hs : request.selection true with
  | ok selection => exact absurd (isKnown_iff.2 ⟨selection, hs⟩) h
  | error e =>
    cases Refused.of_error hs with
    | flag n hn =>
      refine ⟨n, rfl, hn.1, hn.2, ?_⟩
      have hloaded : Support.builtin.isLoaded = true := rfl
      rw [answer, hloaded, make, hs]
      rfl
    | unavailable _ hread => cases hread

/-! ### The end of a command -/

/-- The first trouble of a command, in the order in which they are looked for. -/
inductive Stops (s : Surroundings Id) (o : Options) : Trouble → Prop
  | source {t : Trouble} : (∀ source, ¬ Loads s o.source source) → Reports o.source t → Stops s o t
  | statement : (∃ source, Loads s o.source source) → (∀ sql, ¬ Gives s o.sql sql) →
      Stops s o .reading
  | query {n : Int} : (∃ source, Loads s o.source source) → (∃ sql, Gives s o.sql sql) →
      o.request = .flag n → n ≠ 1 → n ≠ 2 → Stops s o (.query (.invalidFlag n))

variable {o : Options}

theorem run_of_loadSource {t : Trouble} (h : loadSource s o.source = .error t) :
    o.run s = .error t := by
  unfold Options.run
  simp [h, bind, pure]

theorem run_of_loadStatement {source : Source} {t : Trouble}
    (hsource : loadSource s o.source = .ok source) (h : loadStatement s o.sql = .error t) :
    o.run s = .error t := by
  unfold Options.run
  simp [hsource, h, bind, pure]

theorem run_of_answer {source : Source} {sql : Text}
    (hsource : loadSource s o.source = .ok source) (hsql : loadStatement s o.sql = .ok sql) :
    o.run s = (match answer source sql o.request with
      | .ok r => .ok (r.sql ++ ['\n'])
      | .error e => .error (.query e) : Except Trouble Text) := by
  unfold Options.run
  cases h : answer source sql o.request with
  | ok r => simp [hsource, hsql, h, bind, pure]
  | error e => simp [hsource, hsql, h, bind, pure]

/-- Where there is a trouble, the first one is reported. -/
theorem exists_stops (h : ¬ ((∃ source, Loads s o.source source) ∧ (∃ sql, Gives s o.sql sql) ∧
    IsKnown o.request)) : ∃ t, o.run s = .error t ∧ Stops s o t := by
  cases hsource : loadSource s o.source with
  | error t =>
    refine ⟨t, run_of_loadSource hsource, .source ?_ (reports_of_loadSource hsource)⟩
    intro source hloads
    rw [loadSource_eq_ok_iff.2 hloads] at hsource
    cases hsource
  | ok source =>
    have hloads : ∃ source, Loads s o.source source := ⟨source, loadSource_eq_ok_iff.1 hsource⟩
    cases hsql : loadStatement s o.sql with
    | error t =>
      obtain rfl := eq_reading_of_loadStatement hsql
      refine ⟨_, run_of_loadStatement hsource hsql, .statement hloads ?_⟩
      intro sql hgives
      rw [loadStatement_eq_ok_iff.2 hgives] at hsql
      cases hsql
    | ok sql =>
      have hgives : ∃ sql, Gives s o.sql sql := ⟨sql, loadStatement_eq_ok_iff.1 hsql⟩
      obtain ⟨n, hn, hone, htwo, hanswer⟩ :=
        @answer_of_not_isKnown source sql _ fun hknown => h ⟨hloads, hgives, hknown⟩
      refine ⟨_, ?_, .query hloads hgives hn hone htwo⟩
      rw [run_of_answer hsource hsql, hanswer]

theorem sql_of_noKeys {source : Source} {sql : Text} {request : Request} {q : Query} {r : Result}
    (hmake : make Support.builtin.isLoaded sql request = .ok q)
    (hprocess : (q.process (source.backend .builtin)).2 = .ok r)
    (h : request = .wish .noKeys ∨ request = .flag 2) : r.sql = sql := by
  obtain ⟨selection, hs, rfl, -⟩ := exists_of_make hmake
  have hnone : selection = .none := Except.ok.inj (hs.symm.trans (selection_eq_none_of_noKeys h))
  obtain ⟨generatesKeys, houtcome⟩ :=
    outcome_none (fun pattern => (source.lookup pattern).mapError Database.LookupError.message) sql
  rw [process_backend, hnone, houtcome] at hprocess
  cases hprocess
  rfl

/-- Where there is no trouble, what the query comes to is put on a line. -/
theorem exists_printed {source : Source} {sql : Text} (hloads : Loads s o.source source)
    (hgives : Gives s o.sql sql) (hknown : IsKnown o.request)
    (hsupplies : Supplies source sql o.request) :
    ∃ q r, make Support.builtin.isLoaded sql o.request = .ok q ∧
      (q.process (source.backend .builtin)).2 = .ok r ∧ o.run s = .ok (r.sql ++ ['\n']) := by
  obtain ⟨q, r, hmake, hprocess, hanswer⟩ := exists_answer hknown hsupplies
  refine ⟨q, r, hmake, hprocess, ?_⟩
  rw [run_of_answer (loadSource_eq_ok_iff.2 hloads) (loadStatement_eq_ok_iff.2 hgives), hanswer]

theorem run_eq {args : List Text} {env : Environment} (hread : Options.read args env = .ok o) :
    run args env s = (match o.run s with
      | .ok output => .printed output
      | .error t => .failed t : Exit) := by
  unfold run
  cases h : o.run s with
  | ok output => simp [hread, h, bind, pure]
  | error t => simp [hread, h, bind, pure]

/-- A command that has been read prints what its query comes to, if its source and its statement can
be had and it asks for no unknown flag; or else it reports the first trouble. -/
theorem run_of_read {args : List Text} {env : Environment}
    (hread : Options.read args env = .ok o)
    (hsupplies : ∀ source sql, Loads s o.source source → Gives s o.sql sql →
      Supplies source sql o.request) :
    (Exit.code (run args env s) = 0 ↔
      (∃ source, Loads s o.source source) ∧ (∃ sql, Gives s o.sql sql) ∧ IsKnown o.request) ∧
    (∀ source sql, Loads s o.source source → Gives s o.sql sql → IsKnown o.request →
      ∃ q r, make Support.builtin.isLoaded sql o.request = .ok q ∧
        (q.process (source.backend .builtin)).2 = .ok r ∧
        run args env s = Exit.printed (r.sql ++ ['\n']) ∧
        (o.request = .wish .noKeys ∨ o.request = .flag 2 → r.sql = sql)) ∧
    (Exit.code (run args env s) ≠ 0 →
      Exit.code (run args env s) = 1 ∧ Exit.output (run args env s) = [] ∧
        ∃ t, run args env s = Exit.failed t ∧ Stops s o t) := by
  have hprints : ∀ source sql, Loads s o.source source → Gives s o.sql sql → IsKnown o.request →
      ∃ q r, make Support.builtin.isLoaded sql o.request = .ok q ∧
        (q.process (source.backend .builtin)).2 = .ok r ∧
        run args env s = Exit.printed (r.sql ++ ['\n']) ∧
        (o.request = .wish .noKeys ∨ o.request = .flag 2 → r.sql = sql) := by
    intro source sql hloads hgives hknown
    obtain ⟨q, r, hmake, hprocess, hrun⟩ :=
      exists_printed hloads hgives hknown (hsupplies source sql hloads hgives)
    exact ⟨q, r, hmake, hprocess, by rw [run_eq hread, hrun], sql_of_noKeys hmake hprocess⟩
  by_cases hall : (∃ source, Loads s o.source source) ∧ (∃ sql, Gives s o.sql sql) ∧
      IsKnown o.request
  · obtain ⟨⟨source, hloads⟩, ⟨sql, hgives⟩, hknown⟩ := id hall
    obtain ⟨q, r, -, -, hprinted, -⟩ := hprints source sql hloads hgives hknown
    have hcode : Exit.code (run args env s) = 0 := by
      rw [hprinted]
      rfl
    exact ⟨iff_of_true hcode hall, hprints, fun h => absurd hcode h⟩
  · obtain ⟨t, hrun, hstops⟩ := exists_stops hall
    have hfailed : run args env s = Exit.failed t := by rw [run_eq hread, hrun]
    have hcode : Exit.code (run args env s) = 1 := by
      rw [hfailed]
      rfl
    refine ⟨iff_of_false (by omega) hall, hprints, fun _ => ⟨hcode, ?_, t, hfailed, hstops⟩⟩
    rw [hfailed]
    rfl

/-- A catalog from a file, with a position of its own, and a statement from the input. -/
theorem run_of_read_catalog :
    let document := "\x7b\"tables\": [\x7b\"name\": \"T\", \"columns\": " ++
      "[\"id\", \x7b\"name\": \"Ref\", \"position\": 5\x7d]\x7d]\x7d"
    let s : Surroundings Id :=
      ⟨fun path => if path = "c.json".toList then some document.toUTF8 else none, fun _ => none,
        "insert into t values (1); \n".toUTF8⟩
    let o : Options := ⟨.catalog "c.json".toList, none, .positions (some [5, 1, 9])⟩
    let source : Source :=
      .catalog ⟨[⟨"T".toList, [⟨"id".toList, 1⟩, ⟨"Ref".toList, 5⟩]⟩]⟩
    let args := ["-c", "c.json", "indexes", "5", "1", "9"].map String.toList
    Options.read args ⟨none, none⟩ = .ok o ∧ Loads s o.source source ∧
      Gives s o.sql "insert into t values (1);".toList ∧ IsKnown o.request ∧
      run args ⟨none, none⟩ s =
        Exit.printed "insert into t values (1)\nRETURNING \"id\",\"Ref\"\n".toList := by
  intro document s o source args
  have hread : Options.read args ⟨none, none⟩ = .ok o := by decide +kernel
  have hpositive : ∀ t ∈ [(⟨"T".toList, [⟨"id".toList, 1⟩, ⟨"Ref".toList, 5⟩]⟩ : Table)],
      ∀ column ∈ t.columns, 1 ≤ column.position := by
    decide
  have hloads : Loads s o.source source :=
    @Loads.catalog s _ document.toList document.toUTF8
      [⟨"T".toList, [⟨"id".toList, none⟩, ⟨"Ref".toList, some 5⟩]⟩] rfl (by decide +kernel)
      (by decide +kernel) hpositive
  have hlast : ∀ c, "insert into t values (1);".toList.getLast? = some c →
      Text.isBlank c = false := by
    intro c hc
    have hsemicolon : "insert into t values (1);".toList.getLast? = some ';' := by decide
    rw [hsemicolon] at hc
    cases hc
    decide
  have hgives : Gives s o.sql "insert into t values (1);".toList :=
    @Gives.input s _ [' ', '\n'] (by decide +kernel) (List.all_eq_true.1 (by decide)) hlast
  have hknown : IsKnown o.request := fun n h => by cases h
  have hsupplies : ∀ source sql, Loads s o.source source → Gives s o.sql sql →
      Supplies source sql o.request := by
    intro source sql hloads _ _ statement _ _ _ _
    cases hloads
    exact ⟨_, rfl⟩
  obtain ⟨q, r, hmake, hprocess, hprinted, -⟩ :=
    (run_of_read hread hsupplies).2.1 source _ hloads hgives hknown
  have hresult : (q.process (source.backend .builtin)).2 =
      .ok ⟨true, "insert into t values (1)\nRETURNING \"id\",\"Ref\"".toList⟩ := by
    cases hmake
    have hsettled := @process_ofAnswers
      (fun pattern => (source.lookup pattern).mapError Database.LookupError.message) .builtin
      "insert into t values (1);".toList (.positions [5, 1, 9]) (.inl rfl)
    refine (congrArg Prod.snd hsettled).trans ?_
    decide +kernel
  rw [hresult] at hprocess
  cases hprocess
  exact ⟨hread, hloads, hgives, hknown, hprinted⟩

end GeneratedKeys.Command
