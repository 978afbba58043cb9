import GeneratedKeys.Source
import Mathlib.Control.Monad.Basic

/-!
# What processing comes to

Processing changes the mode, the statement and the progress of a query step by step. Here its
outcome is told at once, as a function of the text, the selection, the support and the answers
that the source would give at that moment. Processing comes to this outcome in every lawful monad:
it asks the reader, if there is one, and then the source, if the outcome depends on an answer. On a
host each of the two is counted as one call.
-/
namespace GeneratedKeys.Query

/-- What adding columns to a statement comes to: without columns the text stays as it is. -/
def Result.adding (sql : Text) : List Text → Result
  | [] => ⟨false, sql⟩
  | c :: cs => ⟨true, addReturning sql (c :: cs)⟩

/-- The quoted names of the columns at wanted positions, in their order. -/
def quotedNames (wanted : Int → Bool) (columns : List Column) : List Text :=
  (columns.filter fun c => wanted c.position).map fun c => quoteName c.name

/-- Whether a selection is resolved by the source. -/
def Selection.isLookedUp : Selection → Bool
  | .all | .positions _ => true
  | .none | .names _ => false

/-- The columns that a selection adds to a statement on a table. -/
def Selection.resolve (lookup : Text → Except String (List Column)) (table : Text) :
    Selection → Except Failure (List Text)
  | .none => .ok []
  | .all =>
    ((lookup (TableName.pattern table)).mapError .metadata).map (quotedNames fun _ => true)
  | .positions wanted =>
    ((lookup (TableName.pattern table)).mapError .metadata).map (quotedNames wanted.contains)
  | .names wanted => .ok wanted

variable (support : Support) (lookup : Text → Except String (List Column))

/-- A backend that reads and looks up without a state of its own. -/
def Backend.ofAnswers : Backend Id :=
  ⟨support.read?, lookup⟩

/-- The statement that a support reads a text as. -/
def statement? (sql : Text) : Option Statement :=
  support.read?.bind fun read => (read sql).toOption

/-- What processing a query comes to. -/
def outcome (sql : Text) (selection : Selection) : Except Failure Result :=
  match statement? support sql with
  | none => .ok ⟨false, sql⟩
  | some s =>
    if s.returning then .ok ⟨true, sql⟩
    else (selection.resolve lookup s.table).map (Result.adding sql)

/-- Whether the outcome depends on an answer of the source. -/
def consults (sql : Text) (selection : Selection) : Bool :=
  match statement? support sql with
  | none => false
  | some s => !s.returning && selection.isLookedUp

/-- What an outcome leaves behind. -/
def Progress.ofOutcome : Except Failure Result → Progress
  | .ok r => .done r
  | .error _ => .failed

/-- The mode that survives: a mode that adds columns does so where columns were added, or where
looking them up failed. -/
def survivingMode (sql : Text) (selection : Selection) : Mode :=
  match statement? support sql with
  | none => .keep
  | some s =>
    if s.returning then .keep
    else
      match selection.resolve lookup s.table with
      | .ok [] => .keep
      | _ => selection.mode

/-- A query after processing. -/
def settled (sql : Text) (selection : Selection) : Query where
  sql := sql
  selection := selection
  mode := survivingMode support lookup sql selection
  statement := statement? support sql
  progress := .ofOutcome (outcome support lookup sql selection)

/-- How processing ends with the columns to add, or with the failure to find them. -/
def ended (q : Query) : Except Failure (Option (List Text)) → Query × Except Failure Result
  | .error e => ({ q with progress := .failed }, .error e)
  | .ok columns => ((q.conclude columns).1, .ok (q.conclude columns).2)

/-- A statement without RETURNING ends as its selection resolves. -/
theorem ended_resolve {support : Support} {sql : Text} {s : Statement} (selection : Selection)
    (hs : statement? support sql = some s) (hr : s.returning = false) :
    ended ⟨sql, selection, selection.mode, some s, .unprocessed⟩
        ((selection.resolve lookup s.table).map fun columns =>
          if selection = .none then none else some columns) =
      (settled support lookup sql selection, outcome support lookup sql selection) := by
  simp only [settled, outcome, survivingMode, hs, hr, Bool.false_eq_true, if_false]
  cases hres : selection.resolve lookup s.table with
  | error e => rfl
  | ok columns =>
    cases selection with
    | none => cases hres; rfl
    | all => cases columns <;> rfl
    | positions wanted => cases columns <;> rfl
    | names wanted => cases columns <;> rfl

theorem resolve_eq_error_iff {lookup : Text → Except String (List Column)} {table : Text}
    {selection : Selection} {e : Failure} :
    selection.resolve lookup table = .error e ↔
      selection.isLookedUp = true ∧
        ∃ cause, lookup (TableName.pattern table) = .error cause ∧ e = .metadata cause := by
  cases hl : lookup (TableName.pattern table) <;> cases selection <;>
    simp [Selection.resolve, Selection.isLookedUp, hl, Except.mapError, Except.map, eq_comm]

/-- Processing fails only where columns are looked up, and from no other cause. -/
theorem outcome_eq_error_iff {support : Support} {lookup : Text → Except String (List Column)}
    {sql : Text} {selection : Selection} {e : Failure} :
    outcome support lookup sql selection = .error e ↔
      selection.isLookedUp = true ∧
        ∃ s, statement? support sql = some s ∧ s.returning = false ∧
          ∃ cause, lookup (TableName.pattern s.table) = .error cause ∧ e = .metadata cause := by
  unfold outcome
  cases hs : statement? support sql with
  | none => simp
  | some s =>
    cases hr : s.returning with
    | true => simp [hr]
    | false =>
      have hmap : (selection.resolve lookup s.table).map (Result.adding sql) = .error e ↔
          selection.resolve lookup s.table = .error e := by
        cases selection.resolve lookup s.table <;> simp [Except.map]
      simp only [hr, Bool.false_eq_true, if_false, hmap, resolve_eq_error_iff]
      simp [hr]

/-! ### Processing with any backend -/

/-- A query once its text has been read. -/
def noted (q : Query) : Except Statement.Rejection Statement → Query
  | .ok s => { q with mode := if s.returning then .returning else q.mode, statement := some s }
  | .error _ => { q with mode := .keep }

section
variable {m : Type → Type} [Monad m]

/-- Looks columns up if a selection needs them for the statement that has been read. -/
def Backend.consult (b : Backend m) (selection : Selection) :
    Except Statement.Rejection Statement → m (Except String (List Column))
  | .ok s =>
    if !s.returning && selection.isLookedUp then b.columns (TableName.pattern s.table)
    else pure (.ok [])
  | .error _ => pure (.ok [])

/-- A support that reads every text as has been answered for one. -/
def answering (answer : Except Statement.Rejection Statement) : Support :=
  ⟨some fun _ => answer⟩

variable [LawfulMonad m] {b : Backend m}
  {read : Text → m (Except Statement.Rejection Statement)}

theorem readStatement_of_read (hb : b.read? = some read) (q : Query) :
    q.readStatement b = (fun answer => .ok (q.noted answer)) <$> read q.sql := by
  simp only [readStatement, hb, map_eq_pure_bind]
  congr 1
  funext answer
  cases answer <;> rfl

theorem lookUp_of_statement {q : Query} {s : Statement} (hq : q.statement = some s)
    (wanted : Int → Bool) :
    q.lookUp b wanted =
      (fun found => (found.mapError .metadata).map (quotedNames wanted)) <$>
        b.columns (TableName.pattern s.table) := by
  simp only [lookUp, hq, map_eq_pure_bind]
  congr 1
  funext found
  cases found <;> rfl

/-- The columns to add are those that the selection resolves to. -/
theorem additions_of_statement {q : Query} {s : Statement} (hq : q.statement = some s)
    (hr : s.returning = false) (hm : q.mode = q.selection.mode) :
    q.additions b =
      (fun found => (q.selection.resolve (fun _ => found) s.table).map fun columns =>
        if q.selection = .none then none else some columns) <$> b.consult q.selection (.ok s) := by
  have hlookup : ∀ wanted : Int → Bool,
      (do return (← q.lookUp b wanted).map some) =
        (fun found : Except String (List Column) =>
          ((found.mapError Failure.metadata).map (quotedNames wanted)).map some) <$>
            b.columns (TableName.pattern s.table) := by
    intro wanted
    rw [lookUp_of_statement hq, bind_pure_comp, Functor.map_map]
  have hconsult : b.consult q.selection (.ok s) =
      if q.selection.isLookedUp then b.columns (TableName.pattern s.table) else pure (.ok []) := by
    simp [Backend.consult, hr]
  rw [hconsult]
  cases hsel : q.selection with
  | none =>
    simp only [additions, hm, hsel, Selection.mode, Selection.isLookedUp, Bool.false_eq_true,
      if_false, map_pure]
    rfl
  | names wanted =>
    simp only [additions, hm, hsel, Selection.mode, Selection.isLookedUp, Bool.false_eq_true,
      if_false, map_pure]
    rfl
  | all =>
    simp only [additions, hm, hsel, Selection.mode]
    exact hlookup _
  | positions wanted =>
    simp only [additions, hm, hsel, Selection.mode, Selection.wantedPositions,
      Positions.contains_ofList]
    exact hlookup _

/-- Processing reads the text, looks columns up if need be, and comes to the outcome of the
answers. -/
theorem process_of_read (hb : b.read? = some read) (sql : Text) (selection : Selection) :
    (ofSelection sql selection).process b = (do
      let answer ← read sql
      let found ← b.consult selection answer
      return (settled (answering answer) (fun _ => found) sql selection,
        outcome (answering answer) (fun _ => found) sql selection)) := by
  simp only [process, ofSelection, processNow, readStatement_of_read hb, bind_map_left]
  congr 1
  funext answer
  cases answer with
  | error e =>
    simp only [noted, additions, Backend.consult, pure_bind]
    rfl
  | ok s =>
    have hs : statement? (answering (.ok s)) sql = some s := rfl
    cases hr : s.returning with
    | true =>
      simp only [noted, hr, if_true, additions, Backend.consult, pure_bind, Bool.not_true,
        Bool.false_and, Bool.false_eq_true, if_false, settled, outcome, survivingMode, hs]
      rfl
    | false =>
      simp only [noted, hr, Bool.false_eq_true, if_false]
      rw [additions_of_statement rfl hr rfl, bind_map_left]
      congr 1
      funext found
      rw [← ended_resolve (fun _ => found) selection hs hr]
      cases selection.resolve (fun _ => found) s.table <;> rfl

/-- Without a reader only a selection of no columns can have been made, and it keeps the text. -/
theorem process_of_no_reader (hb : b.read? = none) (lookup : Text → Except String (List Column))
    (sql : Text) :
    (ofSelection sql .none).process b =
      pure (settled .unavailable lookup sql .none, outcome .unavailable lookup sql .none) := by
  simp only [process, ofSelection, processNow, readStatement, hb, Selection.mode, if_true,
    pure_bind, additions]
  rfl

end

/-! ### Processing with given answers -/

theorem resolve_congr {lookup lookup' : Text → Except String (List Column)} {selection : Selection}
    {table : Text} (h : selection.isLookedUp = true →
      lookup (TableName.pattern table) = lookup' (TableName.pattern table)) :
    selection.resolve lookup table = selection.resolve lookup' table := by
  cases selection with
  | none => rfl
  | names wanted => rfl
  | all => rw [Selection.resolve, Selection.resolve, h rfl]
  | positions wanted => rw [Selection.resolve, Selection.resolve, h rfl]

variable {read : Text → Except Statement.Rejection Statement} {sql : Text} {s : Statement}

theorem statement?_of_ok (hread : read sql = .ok s) : statement? ⟨some read⟩ sql = some s := by
  simp only [statement?, Option.bind_some, hread, Except.toOption]

theorem statement?_of_error {e : Statement.Rejection} (hread : read sql = .error e) :
    statement? ⟨some read⟩ sql = none := by
  simp only [statement?, Option.bind_some, hread, Except.toOption]

theorem read_of_statement? (h : statement? ⟨some read⟩ sql = some s) : read sql = .ok s := by
  cases hread : read sql with
  | ok t =>
    rw [statement?_of_ok hread] at h
    rw [Option.some.inj h]
  | error e =>
    rw [statement?_of_error hread] at h
    cases h

/-- Processing asks for all that the outcome depends on. -/
theorem settled_of_consult (read : Text → Except Statement.Rejection Statement) (sql : Text)
    (selection : Selection) :
    let found := (Backend.ofAnswers ⟨some read⟩ lookup).consult selection (read sql)
    settled (answering (read sql)) (fun _ => found) sql selection =
        settled ⟨some read⟩ lookup sql selection ∧
      outcome (answering (read sql)) (fun _ => found) sql selection =
        outcome ⟨some read⟩ lookup sql selection := by
  intro found
  have hs : statement? (answering (read sql)) sql = statement? ⟨some read⟩ sql := rfl
  simp only [settled, outcome, survivingMode, hs]
  cases hread : read sql with
  | error e => simp only [statement?_of_error hread, and_self]
  | ok s =>
    cases hr : s.returning with
    | true => simp only [statement?_of_ok hread, hr, if_true, and_self]
    | false =>
      have hfound : selection.isLookedUp = true → found = lookup (TableName.pattern s.table) := by
        intro hl
        simp only [found, hread, Backend.consult, hr, hl]
        rfl
      have hresolve : selection.resolve (fun _ => found) s.table = selection.resolve lookup s.table :=
        resolve_congr hfound
      simp only [statement?_of_ok hread, hresolve, and_self]

/-- Processing an unprocessed query comes to its outcome. Without a reader only a selection of no
columns can have been made. -/
theorem process_ofAnswers {support : Support} (sql : Text) {selection : Selection}
    (hs : support.isLoaded = true ∨ selection = .none) :
    (ofSelection sql selection).process (Backend.ofAnswers support lookup) =
      (settled support lookup sql selection, outcome support lookup sql selection) := by
  obtain ⟨_ | read⟩ := support
  · obtain rfl : selection = .none := by simpa [Support.isLoaded] using hs
    exact process_of_no_reader rfl lookup sql
  · obtain ⟨hsettled, houtcome⟩ := settled_of_consult lookup read sql selection
    rw [process_of_read rfl, ← hsettled, ← houtcome]
    rfl

/-! ### Processing with a state -/

theorem run_process_of_read {σ : Type} {b : Backend (StateM σ)}
    {read : Text → StateM σ (Except Statement.Rejection Statement)} (hb : b.read? = some read)
    (sql : Text) (selection : Selection) (w : σ) :
    let answer := (read sql).run w
    let found := (b.consult selection answer.1).run answer.2
    ((ofSelection sql selection).process b).run w =
      ((settled (answering answer.1) (fun _ => found.1) sql selection,
        outcome (answering answer.1) (fun _ => found.1) sql selection), found.2) := by
  rw [process_of_read hb]
  rfl

end GeneratedKeys.Query

namespace GeneratedKeys.Host
open Query

/-- What a host answers to a pattern at the moment. -/
def answers (h : Host) (pattern : Text) : Except String (List Column) :=
  (h.lookup pattern).1

/-- A host after processing a query. -/
def counting (h : Host) (support : Support) (sql : Text) (selection : Selection) : Host :=
  { h with
    readerCalls := h.readerCalls + if support.isLoaded then 1 else 0
    lookups := h.lookups + if consults support sql selection then 1 else 0 }

theorem run_consult (h : Host) (read : Text → Except Statement.Rejection Statement) (sql : Text)
    (selection : Selection) :
    ((Host.backend ⟨some read⟩).consult selection (read sql)).run h =
      ((Backend.ofAnswers ⟨some read⟩ h.answers).consult selection (read sql),
        { h with lookups := h.lookups + if consults ⟨some read⟩ sql selection then 1 else 0 }) := by
  cases hread : read sql with
  | error e =>
    simp only [Backend.consult, consults, statement?_of_error hread]
    rfl
  | ok s =>
    simp only [Backend.consult, consults, statement?_of_ok hread]
    cases !s.returning && selection.isLookedUp <;> rfl

/-- Processing an unprocessed query comes to its outcome. Without a reader only a selection of no
columns can have been made. -/
theorem run_process (h : Host) {support : Support} (sql : Text) {selection : Selection}
    (hs : support.isLoaded = true ∨ selection = .none) :
    ((ofSelection sql selection).process (Host.backend support)).run h =
      ((settled support h.answers sql selection, outcome support h.answers sql selection),
        h.counting support sql selection) := by
  obtain ⟨_ | read⟩ := support
  · obtain rfl : selection = .none := by simpa [Support.isLoaded] using hs
    rfl
  · obtain ⟨hsettled, houtcome⟩ := settled_of_consult h.answers read sql selection
    rw [run_process_of_read rfl, ← hsettled, ← houtcome]
    have hread : (do modify countReading; return read sql : StateM Host _).run h =
        (read sql, h.countReading) := rfl
    simp only [hread, run_consult]
    rfl

end GeneratedKeys.Host
