import GeneratedKeys.Proofs.Naming

/-!
# Words in upper case

A table that is named without quotes is looked up in upper case, which changes letters of every
script, while a database compares names up to the case of ASCII letters only. So the table that was
created under the very name of a statement is found if upper case changes no other letter of the
name. Elsewhere it is not found, but another table may be.
-/
namespace GeneratedKeys

namespace TableName
open Text Database

/-- Upper case changes no character of a text but ASCII letters. -/
def KeepsLetters (t : Text) : Prop :=
  ∀ c ∈ t, c.toNat < 0x80 ∨ upperChar c = [c]

instance (t : Text) : Decidable (KeepsLetters t) :=
  decidable_of_iff (t.all fun c => c.toNat < 0x80 || upperChar c == [c]) (by simp [KeepsLetters])

theorem keepsLetters_nil : KeepsLetters [] :=
  fun _ hc => absurd hc List.not_mem_nil

theorem keepsLetters_cons {c : Char} {t : Text} :
    KeepsLetters (c :: t) ↔ (c.toNat < 0x80 ∨ upperChar c = [c]) ∧ KeepsLetters t :=
  List.forall_mem_cons

/-- A character beyond ASCII that upper case changes does not come first in its upper-case form. -/
theorem exists_upperChar {c : Char} (hc : ¬ c.toNat < 0x80) (h : upperChar c ≠ [c]) :
    ∃ d rest, upperChar c = d :: rest ∧ d ≠ c := by
  rw [upperChar, if_neg hc] at h ⊢
  split at h
  · next form hform =>
    have hall : ∀ p ∈ upperExpansions, ∃ n ∈ p.2.head?, Char.ofNat n ≠ Char.ofNat p.1 := by
      decide +kernel
    obtain ⟨xs, ys, hxs, -⟩ := List.lookup_eq_some_iff.1 hform
    obtain ⟨n, hn, hne⟩ := hall (c.toNat, form) (by simp [hxs])
    obtain ⟨rest, hrest⟩ := List.head?_eq_some_iff.1 hn
    rw [Char.ofNat_toNat] at hne
    exact ⟨_, _, congrArg (List.map Char.ofNat) hrest, hne⟩
  · split at h
    · exact ⟨_, [], rfl, fun hd => h (by rw [hd])⟩
    · exact absurd rfl h

/-- A text in upper case is the text itself up to the case of ASCII letters if no other character
changes, and only then. -/
theorem fold_upper_eq_iff (t : Text) : fold (upper t) = fold t ↔ KeepsLetters t := by
  induction t with
  | nil => exact iff_of_true rfl keepsLetters_nil
  | cons c t ih =>
    rw [upper_cons, keepsLetters_cons, ← ih]
    by_cases hc : c.toNat < 0x80
    · have hchar : upperChar c = [c.toUpper] := by rw [upperChar, if_pos hc]
      rw [hchar]
      simp [fold, hc, Char.toLower_toUpper_eq_toLower]
    · by_cases hkeeps : upperChar c = [c]
      · simp [fold, hkeeps]
      · obtain ⟨d, rest, hchar, hd⟩ := exists_upperChar hc hkeeps
        have hne : fold (upperChar c ++ upper t) ≠ fold (c :: t) := by
          rw [hchar]
          simp [fold, toLower_of_le hc, toLower_ne hc hd]
        exact iff_of_false hne fun h => h.1.elim hc hkeeps

end TableName

namespace Database
open Text TableName Token Pattern

/-- Of distinct tables one at most has a name. -/
theorem Distinct.filter_eq_singleton {ts : List Table} (h : Distinct ts) {t : Table} (ht : t ∈ ts)
    {name : Text} (hname : fold t.name = fold name) :
    ts.filter (fun u => fold u.name = fold name) = [t] := by
  rcases h.filter_eq name with ⟨hnone, -⟩ | ⟨u, -, -, honly, hone⟩
  · exact absurd hname (hnone t ht)
  · rw [hone, honly t ht hname]

/-- Looking a word up finds the table of that name in upper case, if there is one, or comes to an
error of the engine. -/
theorem lookup_of_isWord {db : Database} (hdb : Distinct db.tables) {word : Text}
    (hword : IsWord word) :
    db.lookup (pattern word) =
        .ok ((db.tables.filter fun t => fold t.name = fold (upper word)).flatMap Table.columns) ∨
      ∃ e, Answers db.tables (pattern word) (.error e) ∧ db.lookup (pattern word) = .error e := by
  have hanswers := answers_lookup hdb (pattern word)
  cases hlookup : db.lookup (pattern word) with
  | error e =>
    rw [hlookup] at hanswers
    exact .inr ⟨e, hanswers, rfl⟩
  | ok columns =>
    rw [hlookup] at hanswers
    left
    cases resolves_of_answers hdb (.word hword) hanswers with
    | missing _ hnone =>
      have hnil : (db.tables.filter fun t => fold t.name = fold (upper word)) = [] :=
        List.filter_eq_nil_iff.2 fun t ht => by simpa using hnone t ht
      rw [hnil]
      rfl
    | single _ ht hname => rw [hdb.filter_eq_singleton ht hname, List.flatMap_singleton]
    | alike hplain => exact absurd (isPlain_of_isWord hword) hplain

end Database

namespace Query
open Text TableName Database

theorem adding_of_ne_nil {sql : Text} {names : List Text} (h : names ≠ []) :
    Result.adding sql names = ⟨true, addReturning sql names⟩ := by
  obtain ⟨c, cs, rfl⟩ := List.exists_cons_of_ne_nil h
  rfl

theorem answer_all_error {lookup : Text → Except String (List Column)} {sql : Text} {s : Statement}
    {cause : String} (hread : Statement.read sql = .ok s) (hret : s.returning = false)
    (hlookup : lookup (pattern s.table) = .error cause) :
    answer (.ofAnswers .builtin lookup) sql (.wish .returnKeys) = .error (.metadata cause) := by
  refine (answer_of_selection rfl).trans ?_
  exact outcome_eq_error_iff.2 ⟨rfl, s, statement?_of_ok hread, hret, cause, hlookup, rfl⟩

/-- A request for all keys for a word adds the columns of the table of that name in upper case, or
comes to an error of the engine. -/
theorem answer_of_isWord {sql : Text} {s : Statement} (hread : Statement.read sql = .ok s)
    (hret : s.returning = false) {db : Database} (hdb : Distinct db.tables)
    (hword : Token.IsWord s.table) :
    let answered := answer ((Source.database db).backend .builtin) sql (.wish .returnKeys)
    let found := db.tables.filter fun t => fold t.name = fold (upper s.table)
    answered = .ok (Result.adding sql (quotedColumns found)) ∨
      ∃ e, Answers db.tables (pattern s.table) (.error e) ∧
        answered = .error (.metadata e.message) := by
  intro answered found
  let lookup (p : Text) := (db.lookup p).mapError LookupError.message
  rcases lookup_of_isWord hdb hword with hok | ⟨e, hanswers, herror⟩
  · have hcolumns : lookup (pattern s.table) = .ok (found.flatMap Table.columns) := by
      simp only [lookup, hok]
      rfl
    rw [quotedColumns_eq]
    exact .inl (answer_all hread hret hcolumns)
  · have hcause : lookup (pattern s.table) = .error e.message := by
      simp only [lookup, herror]
      rfl
    exact .inr ⟨e, hanswers, answer_all_error hread hret hcause⟩

/-- A table of the name that a statement has without quotes is the one whose columns are added, and
there are some, if upper case changes no letter of the name but those of ASCII. If it changes
another one, it is not this table that is found, but the one of the name in upper case, if there is
one. In both cases the engine can fail. -/
theorem word_target_found {sql : Text} {s : Statement} (hread : Statement.read sql = .ok s)
    (hret : s.returning = false) (hquote : s.table.head? ≠ some '\x22')
    (definitions : List (Text × List Text)) {u : Table}
    (hu : u ∈ (Database.empty.createAll definitions).1.tables) (hname : u.name = s.table) :
    let db := (Database.empty.createAll definitions).1
    let answered := answer ((Source.database db).backend .builtin) sql (.wish .returnKeys)
    let fails := ∃ e, Answers db.tables (pattern s.table) (.error e) ∧
      answered = .error (.metadata e.message)
    let others := db.tables.filter fun t => fold t.name = fold (upper s.table)
    (KeepsLetters s.table →
      answered = .ok ⟨true, addReturning sql (quotedColumns [u])⟩ ∨ fails) ∧
    (¬ KeepsLetters s.table → u ∉ others ∧
      (answered = .ok (Result.adding sql (quotedColumns others)) ∨ fails)) := by
  intro db answered fails others
  have hdb : db.IsWellFormed := isWellFormed_createAll definitions
  have hword := Statement.isWord_of_read hread hquote
  have hfound : u ∈ others ↔ KeepsLetters s.table := by
    rw [List.mem_filter, decide_eq_true_eq, hname, eq_comm, fold_upper_eq_iff]
    exact and_iff_right hu
  have hanswered : answered = .ok (Result.adding sql (quotedColumns others)) ∨ fails :=
    answer_of_isWord hread hret hdb.distinct hword
  refine ⟨fun hkeeps => ?_, fun hkeeps => ⟨mt hfound.1 hkeeps, hanswered⟩⟩
  have hothers : others = [u] :=
    hdb.distinct.filter_eq_singleton hu (of_decide_eq_true (List.mem_filter.1 (hfound.2 hkeeps)).2)
  have hcolumns : quotedColumns [u] ≠ [] := by
    simpa [quotedColumns] using hdb.columns_ne_nil u hu
  rwa [hothers, adding_of_ne_nil hcolumns] at hanswered

/-- Of two tables whose names are the same in upper case, the one with the accent in upper case is
found for both names. -/
theorem word_target_found_accent :
    let definitions := [("caf\u00e9".toList, [['a']]), ("caf\u00c9".toList, [['b']])]
    let db := (Database.empty.createAll definitions).1
    let answered (sql : String) :=
      answer ((Source.database db).backend .builtin) sql.toList (.wish .returnKeys)
    answered "DELETE FROM caf\u00c9" =
        .ok ⟨true, "DELETE FROM caf\u00c9\nRETURNING \"b\"".toList⟩ ∧
      answered "DELETE FROM caf\u00e9" =
        .ok ⟨true, "DELETE FROM caf\u00e9\nRETURNING \"b\"".toList⟩ := by
  intro definitions db answered
  have hupper : Statement.read "DELETE FROM caf\u00c9".toList =
      .ok ⟨.delete, none, "caf\u00c9".toList, false⟩ := by decide +kernel
  have hlower : Statement.read "DELETE FROM caf\u00e9".toList =
      .ok ⟨.delete, none, "caf\u00e9".toList, false⟩ := by decide +kernel
  have hb : Table.ofNames "caf\u00c9".toList [['b']] ∈ db.tables := by decide +kernel
  have ha : Table.ofNames "caf\u00e9".toList [['a']] ∈ db.tables := by decide +kernel
  have hfound := (word_target_found hupper rfl (by decide) definitions hb rfl).1 (by decide +kernel)
  have hother := (word_target_found hlower rfl (by decide) definitions ha rfl).2 (by decide +kernel)
  have hnever (sql : String) (hok : (answered sql).isOk = true) (e : Failure) :
      answered sql ≠ .error e := by
    intro he
    rw [he] at hok
    cases hok
  constructor
  · rcases hfound with hok | ⟨e, -, he⟩
    · exact hok
    · exact absurd he (hnever _ (by decide +kernel) _)
  · rcases hother.2 with hok | ⟨e, -, he⟩
    · exact hok.trans (by decide +kernel)
    · exact absurd he (hnever _ (by decide +kernel) _)

end Query
end GeneratedKeys
