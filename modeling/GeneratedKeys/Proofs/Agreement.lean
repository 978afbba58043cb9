import GeneratedKeys.Proofs.Acceptance
import GeneratedKeys.Proofs.LookingUp
import GeneratedKeys.Proofs.Outcome

/-!
# Catalogs and databases agree

A table that is named without quotes is looked up in upper case. Where the names of the tables are
without ASCII letters in lower case, its pattern finds the one table of that name or none, in a
catalog and in a database alike, so queries come to the same, whatever they select.
-/
namespace GeneratedKeys

/-! ### The table of a statement -/

namespace Statement
variable {kind : Kind} {schema : Option Text} {table : Text}

theorem IsName.exists_mem {ts : List Token} (h : IsName schema table ts) :
    ∃ t ∈ ts, t.kind.isIdentifier = true ∧ t.raw = table := by
  cases h with
  | @plain t ht => exact ⟨t, by simp, ht, rfl⟩
  | @qualified s d t _ _ ht => exact ⟨t, by simp, ht, rfl⟩

theorem Head.exists_mem {depth : Nat} {head body : List Token}
    (h : Head kind schema table depth head body) :
    ∃ t ∈ head, t.kind.isIdentifier = true ∧ t.raw = table := by
  cases h with
  | values _ hname | defaults _ hname | query _ hname | updateOrInsert _ hname
  | update _ hname | delete _ hname =>
    obtain ⟨t, ht, hi⟩ := hname.exists_mem
    exact ⟨t, by simp [ht], hi⟩

/-- The table of a statement is written as one identifier of its text. -/
theorem exists_identifier_of_read {sql : Text} {s : Statement} (h : read sql = .ok s) :
    ∃ t ∈ Token.lexemes sql, t.kind.isIdentifier = true ∧ t.raw = s.table := by
  have hstatement := (read_iff_isStatement sql s.kind s.schema s.table).1 ⟨s.returning, h⟩
  obtain ⟨-, depth, head, body, htokens, hhead, -⟩ := hstatement
  obtain ⟨t, ht, hi⟩ := hhead.exists_mem
  exact ⟨t, by rw [htokens]; exact List.mem_append_left body ht, hi⟩

/-- The name of a statement's table is spelled as an identifier. -/
theorem spells_of_read {sql : Text} {s : Statement} (h : read sql = .ok s) :
    ∃ k, k.isIdentifier = true ∧ Token.Spells k s.table := by
  obtain ⟨t, ht, hi, hraw⟩ := exists_identifier_of_read h
  have hmalformed : ∀ m, t.kind ≠ .malformed m := by
    intro m hm
    rw [hm] at hi
    cases hi
  exact ⟨t.kind, hi, hraw ▸ Token.spells_of_mem_lexemes ht hmalformed⟩

/-- A table whose name is not quoted is named by a word. -/
theorem isWord_of_read {sql : Text} {s : Statement} (h : read sql = .ok s)
    (hquote : s.table.head? ≠ some '\x22') : Token.IsWord s.table := by
  obtain ⟨k, hi, hspells⟩ := spells_of_read h
  exact Token.isWord_of_spells hspells hi hquote

end Statement

/-! ### Names in upper case -/

namespace TableName
open Text Token Pattern

/-- Whether a character is neither an ASCII letter in lower case nor one that the engine does not
read as itself, or reads another one as. -/
def isSettled (c : Char) : Bool :=
  let n := c.toNat
  0 < n && (n < 0x61 || 0x7a < n) && (n < 0xfffd || 0xffff < n)

theorem isSettled_iff {c : Char} : isSettled c = true ↔
    0 < c.toNat ∧ (c.toNat < 0x61 ∨ 0x7a < c.toNat) ∧ (c.toNat < 0xfffd ∨ 0xffff < c.toNat) := by
  simp [isSettled, and_assoc]

theorem isSettled_move {r : Run} (hr : r ∈ upperRuns) {n : Nat} (hn : r.covers n = true) :
    isSettled (Char.ofNat (r.move n)) = true := by
  have hall : ∀ r ∈ upperRuns,
      0 < r.first + r.shift ∧ r.last + r.shift < 0x61 ∨
      0x7a < r.first + r.shift ∧ r.last + r.shift < 0xd800 ∨
      0xdfff < r.first + r.shift ∧ r.last + r.shift < 0xfffd ∨
      0xffff < r.first + r.shift ∧ r.last + r.shift < 0x110000 := by
    decide +kernel
  have hb := hall r hr
  simp only [Run.covers, Bool.and_eq_true, decide_eq_true_eq] at hn
  have hvalid : (r.move n).isValidChar := by
    unfold Nat.isValidChar Run.move
    omega
  rw [isSettled_iff, Char.toNat_ofNat, if_pos hvalid]
  unfold Run.move
  omega

theorem isSettled_of_isWordPart {c : Char} (hc : ¬ c.toNat < 0x80) (h : isWordPart c = true) :
    isSettled c = true := by
  have hall : ∀ n ∈ [0xfffd, 0xfffe, 0xffff], isWordPart (Char.ofNat n) = false := by
    decide +kernel
  have hne : c.toNat ∉ [0xfffd, 0xfffe, 0xffff] := by
    intro hmem
    have hf := hall c.toNat hmem
    rw [Char.ofNat_toNat, h] at hf
    cases hf
  simp only [List.mem_cons, not_or] at hne
  rw [isSettled_iff]
  omega

theorem isSettled_upperChar {c : Char} (h : isWordPart c = true) :
    ∀ d ∈ upperChar c, isSettled d = true := by
  intro d hd
  by_cases hc : c.toNat < 0x80
  · have hall : ∀ n : Fin 0x80, isWordPart (Char.ofNat n) = true →
        isSettled (Char.ofNat n).toUpper = true := by
      decide +kernel
    rw [upperChar, if_pos hc, List.mem_singleton] at hd
    rw [hd]
    exact of_ascii (p := fun c => isWordPart c = true → isSettled c.toUpper = true) hall hc h
  · rcases mem_upperChar hc hd with ⟨p, hp, n, hn, rfl⟩ | ⟨r, hr, hcovers, rfl⟩ | rfl
    · have hall : ∀ p ∈ upperExpansions, ∀ n ∈ p.2, isSettled (Char.ofNat n) = true := by
        decide +kernel
      exact hall p hp n hn
    · exact isSettled_move hr hcovers
    · exact isSettled_of_isWordPart hc h

theorem trim_of_forall {t : Text} (h : ∀ c ∈ t, isBlank c = false) : trim t = t := by
  have hdrop : ∀ u : Text, (∀ c ∈ u, isBlank c = false) → u.dropWhile isBlank = u := by
    intro u hu
    cases u with
    | nil => rfl
    | cons c u => rw [List.dropWhile_cons, if_neg (by simp [hu c List.mem_cons_self])]
  have hreverse : ∀ c ∈ t.reverse, isBlank c = false := fun c hc => h c (List.mem_reverse.1 hc)
  rw [trim, hdrop t h, trimEnd, hdrop t.reverse hreverse, List.reverse_reverse]

theorem isWordPart_of_isWord {t : Text} (h : IsWord t) : ∀ c ∈ t, isWordPart c = true := by
  obtain ⟨first, rest, rfl, hfirst, hrest⟩ := h
  intro c hc
  rcases List.mem_cons.1 hc with rfl | hc
  · exact isWordPart_of_isWordStart hfirst
  · exact hrest c hc

/-- A word denotes itself in upper case. -/
theorem denoted_of_isWord {t : Text} (h : IsWord t) : denoted t = upper t := by
  have htrim : trim t = t :=
    trim_of_forall fun c hc => not_isBlank_of_isWordPart (isWordPart_of_isWord h c hc)
  have hquote : t.head? ≠ some '\x22' := by
    intro hq
    have hpart := isWordPart_of_isWord h '\x22' (List.mem_of_head? hq)
    exact absurd hpart (by decide)
  simp only [denoted, htrim]
  exact if_neg fun hq => hquote hq.2.1

theorem isSettled_denoted {t : Text} (h : IsWord t) : ∀ c ∈ denoted t, isSettled c = true := by
  rw [denoted_of_isWord h]
  intro c hc
  obtain ⟨d, hd, hcd⟩ := List.mem_flatMap.1 hc
  exact isSettled_upperChar (isWordPart_of_isWord h d hd) c hcd

theorem isSettled_escapeWildcards {t : Text} (h : ∀ c ∈ t, isSettled c = true) :
    ∀ c ∈ escapeWildcards t, isSettled c = true := by
  induction t with
  | nil => exact h
  | cons d t ih =>
    have hd : isSettled d = true := h d List.mem_cons_self
    have ht := ih fun c hc => h c (List.mem_cons_of_mem d hc)
    have hb : isSettled '\x5c' = true := by decide
    unfold escapeWildcards
    split
    · simpa [hb, hd] using ht
    · simpa [hd] using ht

theorem endsInEscape_escapeWildcards (t : Text) : endsInEscape (escapeWildcards t) = false := by
  induction t with
  | nil => rfl
  | cons c t ih =>
    unfold escapeWildcards
    split
    · rw [endsInEscape]
      exact ih
    · next hc =>
      have hb : c ≠ '\x5c' := by
        rintro rfl
        exact hc rfl
      rw [endsInEscape]
      · exact ih
      · exact fun hslash => absurd hslash hb
      · exact fun _ _ hslash => absurd hslash hb

end TableName

/-! ### Looking a word up -/

namespace Database
open Text TableName Token Pattern

theorem isLower_of_isSettled {c : Char} (h : isSettled c = true) : c.isLower = false := by
  have hn := isSettled_iff.1 h
  apply Bool.eq_false_iff.2
  intro hl
  have hlow := toNat_of_isLower hl
  omega

theorem ne_terminator_of_isSettled {c : Char} (h : isSettled c = true) : c ≠ terminator := by
  rintro rfl
  exact absurd h (by decide)

theorem readChar_eq_iff {c : Char} (h : isSettled c = true) (d : Char) :
    readChar d = c ↔ d = c := by
  have hreplacement : c ≠ '\ufffd' := by
    rintro rfl
    exact absurd h (by decide)
  unfold readChar
  split
  · next hd =>
    have hdc : d ≠ c := by
      rintro rfl
      rcases hd with rfl | rfl
      · exact absurd h (by decide)
      · exact absurd h (by decide)
    exact iff_of_false (Ne.symm hreplacement) hdc
  · rfl

theorem readText_eq_iff {u : Text} (h : ∀ c ∈ u, isSettled c = true) (t : Text) :
    readText t = u ↔ t = u := by
  unfold readText
  induction u generalizing t with
  | nil => simp
  | cons c u ih =>
    cases t with
    | nil => simp
    | cons d t =>
      have hc := readChar_eq_iff (h c List.mem_cons_self) d
      have hu := ih (fun e he => h e (List.mem_cons_of_mem c he)) t
      simp only [List.map_cons, List.cons.injEq, hc, hu]

theorem readPattern_of_isSettled {u : Text} (h : ∀ c ∈ u, isSettled c = true) :
    readPattern u = u := by
  have htake : u.takeWhile (· != terminator) = u := by
    apply List.takeWhile_eq_self_iff.2
    intro c hc
    simpa using ne_terminator_of_isSettled (h c hc)
  rw [readPattern, htake]
  exact (readText_eq_iff h u).2 rfl

theorem isLower_readChar {c : Char} (h : c.isLower = false) : (readChar c).isLower = false := by
  unfold readChar
  split
  · decide
  · exact h

/-- The pattern of a word fits the name that the word denotes and no other, of the names without
letters in lower case. -/
theorem fits_pattern_iff {word : Text} (hword : IsWord word) {name : Text}
    (hname : ∀ c ∈ name, c.isLower = false) :
    fits (pattern word) name = true ↔ name = denoted word := by
  have hsettled := isSettled_denoted hword
  have hescaped := isSettled_escapeWildcards hsettled
  have hread : readPattern (pattern word) = escapeWildcards (denoted word) := by
    rw [pattern_eq]
    exact readPattern_of_isSettled hescaped
  have hupper : asciiUpper (escapeWildcards (denoted word)) = escapeWildcards (denoted word) :=
    asciiUpper_of_not_isLower fun c hc => isLower_of_isSettled (hescaped c hc)
  have hlower : ∀ c ∈ readText name, c.isLower = false := by
    intro c hc
    obtain ⟨d, hd, rfl⟩ := List.mem_map.1 hc
    exact isLower_readChar (hname d hd)
  have hescape : endsInEscape (readPattern (pattern word)) = false := by
    rw [hread]
    exact endsInEscape_escapeWildcards _
  rw [fits_eq_fitsUpper, fitsUpper, hescape, hread, hupper, asciiUpper_of_not_isLower hlower,
    Bool.not_false, Bool.true_and, Catalog.fits_escapeWildcards, readText_eq_iff hsettled]

/-- Distinct tables of one name are one or none, so there is nothing to order. -/
theorem mergeSort_of_one_name {ts : List Table} (hts : Distinct ts) {name : Text}
    (hname : ∀ t ∈ ts, t.name = name) (le : Table → Table → Bool) : ts.mergeSort le = ts := by
  match ts with
  | [] => exact List.mergeSort_nil
  | [t] => exact List.mergeSort_singleton t
  | t :: u :: ts =>
    have hne : fold t.name ≠ fold u.name := (List.pairwise_cons.1 hts).1 _ (by simp)
    rw [hname t (by simp), hname u (by simp)] at hne
    exact absurd rfl hne

/-- What a database finds for a word is what a catalog of its tables does. -/
theorem found_pattern {db : Database} (hdb : Distinct db.tables)
    (hlower : ∀ t ∈ db.tables, ∀ c ∈ t.name, c.isLower = false) {word : Text}
    (hword : IsWord word) :
    db.found (pattern word) = db.tables.filter fun t => t.name = denoted word := by
  have hfilter : (db.tables.filter fun t => fits (pattern word) t.name) =
      db.tables.filter fun t => t.name = denoted word := by
    apply List.filter_congr
    intro t ht
    rw [Bool.eq_iff_iff, fits_pattern_iff hword (hlower t ht), decide_eq_true_eq]
  have hdistinct : Distinct (db.tables.filter fun t => t.name = denoted word) :=
    hdb.sublist (List.filter_sublist.map _)
  have hname : ∀ t ∈ db.tables.filter fun t => t.name = denoted word, t.name = denoted word := by
    intro t ht
    simpa using (List.mem_filter.1 ht).2
  rw [found, hfilter]
  exact mergeSort_of_one_name hdistinct hname _

theorem lookup_pattern_of_ok {db : Database} (hdb : Distinct db.tables)
    (hlower : ∀ t ∈ db.tables, ∀ c ∈ t.name, c.isLower = false) {word : Text}
    (hword : IsWord word) {columns : List Column} (h : db.lookup (pattern word) = .ok columns) :
    columns = Catalog.lookup ⟨db.tables⟩ (pattern word) := by
  unfold lookup at h
  split at h
  · cases h
  · split at h
    · cases h
    · cases h
      rw [Catalog.lookup_pattern, found_pattern hdb hlower hword]

/-- Looking a word up comes to an error or to what it comes to in a catalog. -/
theorem lookup_word {tables : List (Text × List Text)} {db : Database}
    (h : ofTables? tables = some db) (hlower : ∀ t ∈ tables, ∀ c ∈ t.1, c.isLower = false)
    {word : Text} (hword : IsWord word) :
    db.lookup (pattern word) = .ok ((Catalog.ofNames tables).lookup (pattern word)) ∨
      ∃ e, db.lookup (pattern word) = .error e ∧
        Answers (Catalog.ofNames tables).tables (pattern word) (.error e) := by
  obtain ⟨htables, hdistinct⟩ := of_ofTables? h
  have hnames : ∀ t ∈ db.tables, ∀ c ∈ t.name, c.isLower = false := by
    intro t ht
    rw [htables] at ht
    obtain ⟨u, hu, rfl⟩ := List.mem_map.1 ht
    exact hlower u hu
  have hanswers := answers_lookup hdistinct (pattern word)
  cases hl : db.lookup (pattern word) with
  | error e =>
    rw [hl, htables] at hanswers
    exact .inr ⟨e, rfl, hanswers⟩
  | ok columns =>
    rw [lookup_pattern_of_ok hdistinct hnames hword hl, htables]
    exact .inl rfl

end Database

/-! ### Queries -/

namespace Query
open Database Pattern

/-- Where a source answers, the outcome is the same with every source that answers so; where it
fails, the query fails or the outcome does not depend on it. -/
theorem outcome_eq_or {support : Support} {lookup lookup' : Text → Except String (List Column)}
    {sql : Text} {s : Statement} (hs : statement? support sql = some s) (selection : Selection) :
    outcome support lookup sql selection = outcome support lookup' sql selection ∨
      lookup (TableName.pattern s.table) ≠ lookup' (TableName.pattern s.table) ∧
        ∀ cause, lookup (TableName.pattern s.table) = .error cause →
          outcome support lookup sql selection = .error (.metadata cause) := by
  by_cases heq : lookup (TableName.pattern s.table) = lookup' (TableName.pattern s.table)
  · left
    simp only [outcome, hs, resolve_congr fun _ => heq]
  · by_cases hasked : selection.isLookedUp = true ∧ s.returning = false
    · right
      refine ⟨heq, fun cause hc => ?_⟩
      exact outcome_eq_error_iff.2 ⟨hasked.1, s, hs, hasked.2, cause, hc, rfl⟩
    · left
      cases hr : s.returning with
      | true => simp only [outcome, hs, hr, if_true]
      | false =>
        have hresolve : selection.resolve lookup s.table = selection.resolve lookup' s.table :=
          resolve_congr fun hl => absurd ⟨hl, hr⟩ hasked
        simp only [outcome, hs, hresolve]

theorem process_backend (source : Source) (sql : Text) (selection : Selection) :
    ((ofSelection sql selection).process (source.backend .builtin)).2 =
      outcome .builtin (fun pattern => (source.lookup pattern).mapError LookupError.message) sql
        selection :=
  congrArg Prod.snd (process_ofAnswers _ sql (.inl rfl))

/-- The two sources agree. -/
theorem sources_agree {tables : List (Text × List Text)} {db : Database}
    (h : Database.ofTables? tables = some db) :
    (∀ pattern, Answers (Catalog.ofNames tables).tables pattern (db.lookup pattern)) ∧
    ((∀ t ∈ tables, ∀ c ∈ t.1, c.isLower = false) → ∀ (sql : Text),
      (∀ s, Statement.read sql = .ok s → s.table.head? ≠ some '\x22') → ∀ selection : Selection,
        ((ofSelection sql selection).process ((Source.database db).backend .builtin)).2 =
          ((ofSelection sql selection).process
            ((Source.catalog (Catalog.ofNames tables)).backend .builtin)).2 ∨
        ∃ s e, Statement.read sql = .ok s ∧
          Answers (Catalog.ofNames tables).tables (TableName.pattern s.table) (.error e) ∧
          ((ofSelection sql selection).process ((Source.database db).backend .builtin)).2 =
            .error (.metadata e.message)) := by
  obtain ⟨htables, hdistinct⟩ := of_ofTables? h
  refine ⟨fun pattern => htables ▸ answers_lookup hdistinct pattern, ?_⟩
  intro hlower sql hquote selection
  rw [process_backend, process_backend]
  cases hread : Statement.read sql with
  | error r =>
    left
    simp only [outcome, statement?, Support.builtin, Option.bind_some, hread, Except.toOption]
  | ok s =>
    have hs : statement? .builtin sql = some s := by
      simp [statement?, Support.builtin, hread, Except.toOption]
    have hword := Statement.isWord_of_read hread (hquote s hread)
    rcases outcome_eq_or hs selection with heq | ⟨hne, hfails⟩
    · exact .inl heq
    · rcases lookup_word h hlower hword with hok | ⟨e, he, hanswers⟩
      · refine absurd ?_ hne
        simp only [Source.lookup, hok]
      · refine .inr ⟨s, e, rfl, hanswers, hfails _ ?_⟩
        simp only [Source.lookup, he]
        rfl

/-- A pattern that fits more than one table, in another order than that of their creation, and a
statement on one of them. -/
theorem sources_agree_delete :
    let tables := [("Z_1".toList, ["id".toList, "Name".toList]), ("\u00c9Z1".toList, ["x".toList]),
      ("AZ1".toList, ["y".toList])]
    let db : Database := ⟨(Catalog.ofNames tables).tables⟩
    Database.ofTables? tables = some db ∧
      Answers (Catalog.ofNames tables).tables "_z1".toList (db.lookup "_z1".toList) ∧
      ((ofSelection "delete from z_1".toList .all).process
          ((Source.database db).backend .builtin)).2 =
        ((ofSelection "delete from z_1".toList .all).process
          ((Source.catalog (Catalog.ofNames tables)).backend .builtin)).2 := by
  intro tables db
  have htables : Database.ofTables? tables = some db := by decide +kernel
  have hlower : ∀ t ∈ tables, ∀ c ∈ t.1, c.isLower = false := by
    have hall : (tables.all fun t => t.1.all fun c => c.isLower == false) = true := by
      decide +kernel
    simpa only [List.all_eq_true, beq_iff_eq] using hall
  have hread : Statement.read "delete from z_1".toList =
      .ok ⟨.delete, none, "z_1".toList, false⟩ := by decide +kernel
  have hquote : ∀ s, Statement.read "delete from z_1".toList = .ok s →
      s.table.head? ≠ some '\x22' := by
    intro s hs
    rw [hread] at hs
    cases hs
    decide
  have hresult : ((ofSelection "delete from z_1".toList .all).process
      ((Source.database db).backend .builtin)).2 =
        .ok ⟨true, "delete from z_1\nRETURNING \"id\",\"Name\"".toList⟩ := by
    decide +kernel
  obtain ⟨hanswers, hqueries⟩ := sources_agree htables
  refine ⟨htables, hanswers _, ?_⟩
  rcases hqueries hlower "delete from z_1".toList hquote .all with heq | ⟨s, e, -, -, herror⟩
  · exact heq
  · rw [hresult] at herror
    cases herror

end Query
end GeneratedKeys
