import GeneratedKeys.Proofs.Asking
import GeneratedKeys.Proofs.Clause

/-!
# What a query knows

A query keeps its mode, its statement and its progress apart from each other, and processing sets
them one by one. Here is how they fit together at any time, whatever reads statements and whatever
looks columns up. A backend answers as its state has it, and nothing is assumed of the state in
which it is asked the next time: a source can change, fail or recover in between.
-/
namespace GeneratedKeys.Query

variable {σ : Type}

/-- A query that has been asked in several states, one after the other. -/
def asked (b : Backend (StateM σ)) (states : List σ) (q : Query) : Query :=
  states.foldl (fun q w => ((q.process b).run w).1.1) q

/-- What a backend answers for a table when a query is asked in a state: the columns are looked up
after the text has been read. -/
def Backend.Answers (b : Backend (StateM σ)) (w : σ) (sql table : Text)
    (found : Except String (List Column)) : Prop :=
  ∃ read, b.read? = some read ∧
    ((b.columns (TableName.pattern table)).run ((read sql).run w).2).1 = found

/-- The columns that a selection adds: names as they have been given, or else the quoted names of
columns that have been found. -/
def Selection.Yields (answers : Except String (List Column) → Prop) (columns : List Text) :
    Selection → Prop
  | .none => False
  | .all => ∃ found, answers (.ok found) ∧ columns = found.map fun c => quoteName c.name
  | .positions wanted => ∃ found, answers (.ok found) ∧
      columns = (found.filter fun c => c.position ∈ wanted).map fun c => quoteName c.name
  | .names wanted => columns = wanted

/-- The text stays as it is, and returns keys only if it does so by itself. -/
structure KeepsText (q : Query) (r : Result) : Prop where
  mode : q.mode = .keep
  sql : r.sql = q.sql
  generatesKeys : r.generatesKeys = true ↔ ∃ s, q.statement = some s ∧ s.returning = true

/-- A clause takes the place of a final semicolon. -/
structure AddsClause (b : Backend (StateM σ)) (w : σ) (q : Query) (r : Result) : Prop where
  mode : q.mode = q.selection.mode
  adds : q.mode = .addAll ∨ q.mode = .addPositions ∨ q.mode = .addNames
  generatesKeys : r.generatesKeys = true
  statement : ∃ s, q.statement = some s ∧ s.returning = false ∧
    ∃ columns, columns ≠ [] ∧ q.selection.Yields (b.Answers w q.sql s.table) columns ∧
      ∃ front, (q.sql = front ++ [';'] ∨ q.sql = front ∧ front.getLast? ≠ some ';') ∧
        r.sql = front ++ "\nRETURNING ".toList ++ List.intercalate [','] columns

/-- The columns of a statement could not be looked up. -/
structure LacksColumns (b : Backend (StateM σ)) (w : σ) (q : Query) : Prop where
  mode : q.mode = q.selection.mode
  adds : q.mode = .addAll ∨ q.mode = .addPositions
  statement : ∃ s, q.statement = some s ∧ s.returning = false ∧
    ∃ cause, b.Answers w q.sql s.table (.error cause)

/-- How the mode and the statement of a query that has been asked in some states fit its progress.
What the backend has answered in the first one decides. -/
structure Coherent (b : Backend (StateM σ)) (states : List σ) (q : Query) : Prop where
  unprocessed : q.progress = .unprocessed → q.mode = q.selection.mode ∧ q.statement = none
  done : ∀ r, q.progress = .done r → q.mode ≠ .returning ∧
    (q.KeepsText r ∨ ∃ w, states.head? = some w ∧ q.AddsClause b w r)
  failed : q.progress = .failed → ∃ w, states.head? = some w ∧ q.LacksColumns b w

variable {b : Backend (StateM σ)} {sql table : Text} {selection : Selection}
  {lookup : Text → Except String (List Column)}

/-! ### Columns -/

theorem addReturning_eq (sql : Text) (columns : List Text) : addReturning sql columns =
    dropSemicolon sql ++ "\nRETURNING ".toList ++ List.intercalate [','] columns := by
  unfold addReturning clause
  rw [List.append_assoc]

theorem yields_of_resolve {answers : Except String (List Column) → Prop} {columns : List Text}
    (h : selection.isLookedUp = true → answers (lookup (TableName.pattern table)))
    (hr : selection.resolve lookup table = .ok columns) (hc : columns ≠ []) :
    selection.Yields answers columns := by
  have hfound : ∀ wanted, ((lookup (TableName.pattern table)).mapError Failure.metadata).map
      (quotedNames wanted) = .ok columns → ∃ found,
        lookup (TableName.pattern table) = .ok found ∧ columns = quotedNames wanted found := by
    intro wanted hw
    cases hl : lookup (TableName.pattern table) with
    | error cause => simp [hl, Except.mapError, Except.map] at hw
    | ok found =>
      simp only [hl, Except.mapError, Except.map, Except.ok.injEq] at hw
      exact ⟨found, rfl, hw.symm⟩
  cases selection with
  | none =>
    cases hr
    exact absurd rfl hc
  | names wanted =>
    cases hr
    rfl
  | all =>
    obtain ⟨found, hl, rfl⟩ := hfound _ hr
    have hall : found.filter (fun _ => true) = found := List.filter_eq_self.2 fun _ _ => rfl
    exact ⟨found, hl ▸ h rfl, by rw [quotedNames, hall]⟩
  | positions wanted =>
    obtain ⟨found, hl, rfl⟩ := hfound _ hr
    exact ⟨found, hl ▸ h rfl, by simp [quotedNames]⟩

theorem adds_of_yields {answers : Except String (List Column) → Prop} {columns : List Text}
    (h : selection.Yields answers columns) :
    selection.mode = .addAll ∨ selection.mode = .addPositions ∨ selection.mode = .addNames := by
  cases selection with
  | none => exact absurd h id
  | all => exact .inl rfl
  | positions wanted => exact .inr (.inl rfl)
  | names wanted => exact .inr (.inr rfl)

theorem adds_of_isLookedUp (h : selection.isLookedUp = true) :
    selection.mode = .addAll ∨ selection.mode = .addPositions := by
  cases selection with
  | none => cases h
  | all => exact .inl rfl
  | positions wanted => exact .inr rfl
  | names wanted => cases h

/-! ### Processing -/

/-- The ways in which processing ends: nothing is added, a clause is, or the columns to add cannot
be found. -/
inductive Ending (found : Option Statement) (lookup : Text → Except String (List Column))
    (sql : Text) (selection : Selection) : Query → Except Failure Result → Prop
  | kept (generatesKeys : Bool)
      (hk : generatesKeys = true ↔ ∃ s, found = some s ∧ s.returning = true) :
      Ending found lookup sql selection ⟨sql, selection, .keep, found, .done ⟨generatesKeys, sql⟩⟩
        (.ok ⟨generatesKeys, sql⟩)
  | added (s : Statement) (hf : found = some s) (hs : s.returning = false) (columns : List Text)
      (hc : columns ≠ []) (hr : selection.resolve lookup s.table = .ok columns) :
      Ending found lookup sql selection
        ⟨sql, selection, selection.mode, found, .done ⟨true, addReturning sql columns⟩⟩
        (.ok ⟨true, addReturning sql columns⟩)
  | failed (s : Statement) (hf : found = some s) (hs : s.returning = false) (e : Failure)
      (hr : selection.resolve lookup s.table = .error e) :
      Ending found lookup sql selection ⟨sql, selection, selection.mode, found, .failed⟩ (.error e)

theorem ending_settled (support : Support) (lookup : Text → Except String (List Column))
    (sql : Text) (selection : Selection) :
    Ending (statement? support sql) lookup sql selection (settled support lookup sql selection)
      (outcome support lookup sql selection) := by
  unfold settled survivingMode outcome
  cases statement? support sql with
  | none => exact .kept false (by simp)
  | some s =>
    cases hs : s.returning with
    | true =>
      simp only [hs, if_true]
      exact .kept true (by simp [hs])
    | false =>
      simp only [hs, Bool.false_eq_true, if_false]
      cases hr : selection.resolve lookup s.table with
      | error e => exact .failed s rfl hs e hr
      | ok columns =>
        cases columns with
        | nil => exact .kept false (by simp [hs])
        | cons c cs => exact .added s rfl hs (c :: cs) (by simp) hr

/-- Processing an unprocessed query ends in one of the ways, and what it goes by is what the
backend answers. -/
theorem ending_process (hs : b.read?.isSome = true ∨ selection = .none) (sql : Text) (w : σ) :
    ∃ (found : Option Statement) (lookup : Text → Except String (List Column)),
      (∀ s, found = some s → s.returning = false → selection.isLookedUp = true →
        b.Answers w sql s.table (lookup (TableName.pattern s.table))) ∧
      Ending found lookup sql selection (((ofSelection sql selection).process b).run w).1.1
        (((ofSelection sql selection).process b).run w).1.2 := by
  cases hb : b.read? with
  | none =>
    obtain rfl : selection = .none := by simpa [hb] using hs
    have hrun := process_of_no_reader hb (fun _ => .ok []) sql
    refine ⟨none, fun _ => .ok [], by simp, ?_⟩
    rw [hrun]
    exact ending_settled .unavailable (fun _ => .ok []) sql .none
  | some read =>
    have hrun := run_process_of_read hb sql selection w
    refine ⟨((read sql).run w).1.toOption, fun _ =>
      ((b.consult selection ((read sql).run w).1).run ((read sql).run w).2).1, ?_, ?_⟩
    · intro s hf hr hl
      cases ha : ((read sql).run w).1 with
      | error e => simp [ha, Except.toOption] at hf
      | ok t =>
        -- Only for a statement like this one is the backend consulted, and its answer is the
        -- lookup for every pattern; otherwise the lookup is never used.
        obtain rfl : t = s := by simpa [ha, Except.toOption] using hf
        refine ⟨read, hb, ?_⟩
        simp only [Backend.consult, hr, hl, Bool.not_false, Bool.and_self, if_true]
    · rw [hrun]
      exact ending_settled (answering ((read sql).run w).1) _ sql selection

/-! ### Coherence -/

theorem coherent_ofSelection (b : Backend (StateM σ)) (states : List σ) (sql : Text)
    (selection : Selection) : (ofSelection sql selection).Coherent b states where
  unprocessed _ := ⟨rfl, rfl⟩
  done r h := by cases h
  failed h := by cases h

/-- A query is coherent however its processing has ended. -/
theorem Ending.coherent {found : Option Statement} {q : Query} {o : Except Failure Result}
    (h : Ending found lookup sql selection q o) {w : σ}
    (hb : ∀ s, found = some s → s.returning = false → selection.isLookedUp = true →
      b.Answers w sql s.table (lookup (TableName.pattern s.table))) (states : List σ) :
    q.Coherent b (w :: states) := by
  cases h with
  | kept generatesKeys hk =>
    refine ⟨by simp, ?_, by simp⟩
    intro r hr
    cases hr
    exact ⟨by simp, .inl ⟨rfl, rfl, hk⟩⟩
  | added s hf hs columns hc hr =>
    have hy := yields_of_resolve (hb s hf hs) hr hc
    have hm := adds_of_yields hy
    refine ⟨by simp, ?_, by simp⟩
    intro r hd
    obtain rfl := Progress.done.inj hd
    refine ⟨?_, .inr ⟨w, rfl, rfl, hm, rfl, s, hf, hs, columns, hc, hy, ?_⟩⟩
    · rcases hm with hm | hm | hm <;> simp [hm]
    · exact ⟨dropSemicolon sql, dropSemicolon_front sql, addReturning_eq sql columns⟩
  | failed s hf hs e hr =>
    obtain ⟨hl, cause, hc, -⟩ := resolve_eq_error_iff.1 hr
    refine ⟨by simp, by simp, ?_⟩
    intro _
    exact ⟨w, rfl, rfl, adds_of_isLookedUp hl, s, hf, hs, cause, hc ▸ hb s hf hs hl⟩

theorem Ending.progress {found : Option Statement} {q : Query} {o : Except Failure Result}
    (h : Ending found lookup sql selection q o) : q.progress = .ofOutcome o := by
  cases h <;> rfl

theorem Ending.given {found : Option Statement} {q : Query} {o : Except Failure Result}
    (h : Ending found lookup sql selection q o) : q.sql = sql ∧ q.selection = selection := by
  cases h <;> exact ⟨rfl, rfl⟩

/-- Asking a query again does not change it. -/
theorem asked_of_progress {q : Query} {o : Except Failure Result} (h : q.progress = .ofOutcome o)
    (b : Backend (StateM σ)) (states : List σ) : asked b states q = q := by
  induction states with
  | nil => rfl
  | cons w states ih =>
    have hp : ((q.process b).run w).1.1 = q := by
      rw [process_of_progress h]
      rfl
    rw [asked, List.foldl_cons, hp]
    exact ih

/-- However often a query is asked, it knows what the first time has come to. -/
theorem asked_cons (hs : b.read?.isSome = true ∨ selection = .none) (sql : Text) (w : σ)
    (states : List σ) :
    asked b (w :: states) (ofSelection sql selection) =
      (((ofSelection sql selection).process b).run w).1.1 := by
  obtain ⟨found, lookup, -, h⟩ := ending_process hs sql w
  exact asked_of_progress h.progress b states

theorem asked_append (b : Backend (StateM σ)) (xs ys : List σ) (q : Query) :
    asked b (xs ++ ys) q = asked b ys (asked b xs q) :=
  List.foldl_append

theorem given_asked (hs : b.read?.isSome = true ∨ selection = .none) (sql : Text)
    (states : List σ) :
    (asked b states (ofSelection sql selection)).sql = sql ∧
      (asked b states (ofSelection sql selection)).selection = selection := by
  cases states with
  | nil => exact ⟨rfl, rfl⟩
  | cons w states =>
    obtain ⟨found, lookup, -, h⟩ := ending_process hs sql w
    rw [asked_cons hs]
    exact h.given

theorem progress_asked (hs : b.read?.isSome = true ∨ selection = .none) (sql : Text)
    (states : List σ) :
    (asked b states (ofSelection sql selection)).progress = .unprocessed ↔ states = [] := by
  cases states with
  | nil => exact iff_of_true rfl rfl
  | cons w states =>
    obtain ⟨found, lookup, -, h⟩ := ending_process hs sql w
    rw [asked_cons hs, h.progress]
    exact iff_of_false (fun hu => progress_ofSelection sql selection _ hu.symm) (by simp)

theorem coherent_asked (hs : b.read?.isSome = true ∨ selection = .none) (sql : Text)
    (states : List σ) : (asked b states (ofSelection sql selection)).Coherent b states := by
  cases states with
  | nil => exact coherent_ofSelection b [] sql selection
  | cons w states =>
    obtain ⟨found, lookup, hanswers, h⟩ := ending_process hs sql w
    rw [asked_cons hs]
    exact h.coherent hanswers states

theorem exists_of_make {canRead : Bool} {request : Request} {q : Query}
    (h : make canRead sql request = .ok q) :
    ∃ selection, request.selection canRead = .ok selection ∧ q = ofSelection sql selection ∧
      (canRead = true ∨ selection = .none) := by
  cases hr : request.selection canRead with
  | error e => simp [make, hr, Except.map] at h
  | ok selection =>
    simp only [make, hr, Except.map, Except.ok.injEq] at h
    refine ⟨selection, rfl, h.symm, ?_⟩
    cases canRead with
    | true => exact .inl rfl
    | false => exact .inr (selection_eq_none hr)

/-- Whichever way a query has been made, and in whatever states it has been asked, it keeps its text
and its selection, and what else it knows fits together. -/
theorem coherent_of_make {request : Request} {q : Query}
    (hq : make b.read?.isSome sql request = .ok q) (states : List σ) :
    (asked b states q).sql = sql ∧
      request.selection b.read?.isSome = .ok (asked b states q).selection ∧
      ((asked b states q).progress = .unprocessed ↔ states = []) ∧
      (asked b states q).Coherent b states := by
  obtain ⟨selection, hr, rfl, hs⟩ := exists_of_make hq
  obtain ⟨hsql, hselection⟩ := given_asked hs sql states
  refine ⟨hsql, ?_, progress_asked hs sql states, coherent_asked hs sql states⟩
  rw [hselection, hr]

/-- A query that has failed has its statement, also when the source has recovered. -/
theorem lacksColumns_after_recovery :
    let b : Backend (StateM Bool) := ⟨some fun sql => pure (Statement.read sql), fun _ failing =>
      (if failing then .error "down" else .ok (Column.numbered ["id".toList]), failing)⟩
    let q := ofSelection "DELETE FROM t;".toList (.positions [1])
    make b.read?.isSome "DELETE FROM t;".toList (.positions (some [1])) = .ok q ∧
      (asked b [true, false] q).progress = .failed ∧
        (asked b [true, false] q).LacksColumns b true := by
  intro b q
  have hq : make b.read?.isSome "DELETE FROM t;".toList (.positions (some [1])) = .ok q := rfl
  have hp : (asked b [true, false] q).progress = .failed := by decide +kernel
  obtain ⟨w, hw, hlacks⟩ := (coherent_of_make hq [true, false]).2.2.2.failed hp
  obtain rfl : true = w := Option.some.inj hw
  exact ⟨hq, hp, hlacks⟩

end GeneratedKeys.Query

namespace GeneratedKeys.Session
open Query

/-! ### The queries of a session -/

/-- Every query has been made with the shared support, and has been asked in states of the host. -/
def Stored (s : Session) : Prop :=
  ∀ number q, s.query? number = some q →
    ∃ (sql : Text) (selection : Selection) (states : List Host),
      (s.support.isLoaded = true ∨ selection = .none) ∧
        q = asked (Host.backend s.support) states (ofSelection sql selection)

variable {s s' : Session} {t : Step}

theorem Effect.stored (h : Effect s t s') (hs : Stored s) : Stored s' := by
  intro number q hq
  cases h with
  | made sql request =>
    rw [query?_append] at hq
    split at hq
    · obtain ⟨selection, hr, rfl⟩ := Option.map_eq_some_iff.1 hq
      have hok : request.selection s.support.isLoaded = .ok selection := by
        cases hx : request.selection s.support.isLoaded with
        | error e => simp [hx, Except.toOption] at hr
        | ok u => simpa [hx, Except.toOption] using hr
      exact ⟨sql, selection, [], isLoaded_or_eq_none hok, rfl⟩
    · exact hs number q hq
  | missing a k hk => exact hs number q hq
  | asked a k p hp =>
    rw [query?_set] at hq
    split at hq
    · obtain ⟨sql, selection, states, hl, rfl⟩ := hs k p hp
      refine ⟨sql, selection, states ++ [s.host], hl, ?_⟩
      rw [asked_append]
      cases a with
      | use => cases hq
      | generatesKeys => exact (Option.some.inj hq).symm
      | text => exact (Option.some.inj hq).symm
    · exact hs number q hq
  | altered t hm ht => exact hs number q hq

theorem stored_run (steps : List Step) (hs : Stored s) : Stored (run s steps).1 := by
  induction steps generalizing s with
  | nil => exact hs
  | cons t steps ih => exact ih ((effect_step s t).stored hs)

/-- Every query of a session is coherent at any time. -/
theorem coherent_of_query? {support : Support} {source : Source} {steps : List Step} {number : Nat}
    {q : Query} (h : (run (start support source) steps).1.query? number = some q) :
    ∃ states, q.Coherent (Host.backend support) states := by
  have hstart : Stored (start support source) := by
    intro other p hp
    simp [start, query?] at hp
  obtain ⟨sql, selection, states, hs, rfl⟩ := stored_run steps hstart number q h
  rw [support_run] at hs ⊢
  have hread : (Host.backend support).read?.isSome = support.isLoaded := Option.isSome_map
  exact ⟨states, coherent_asked (hread ▸ hs) sql states⟩

end GeneratedKeys.Session
