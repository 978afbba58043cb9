import GeneratedKeys.Column.Basic
import GeneratedKeys.Query.Basic
import GeneratedKeys.Query.Clause
import GeneratedKeys.Query.Positions
import GeneratedKeys.TableName

/-!
# Processing queries

Processing reads the statement, looks up the columns of its table if some are wanted by position
or all are, and adds the clause that returns them. A text that is no statement, a statement that
returns columns already and a selection that comes to no column all leave the text as it is.

What reads statements and what looks up columns is given as a backend, whose answers may depend on
a state of its own. Each is asked at most once, and only while a query is unprocessed.
-/
namespace GeneratedKeys.Query

/-- What processing asks: a reader of statements, which may be missing, and a source of columns,
which is asked by pattern and may fail. -/
structure Backend (m : Type → Type) where
  read? : Option (Text → m (Except Statement.Rejection Statement))
  columns : Text → m (Except String (List Column))

variable {m : Type → Type} [Monad m]

/-- Reads the statement of a query, if there is a reader. Without one, only a query that keeps its
text can go on. -/
def readStatement (b : Backend m) (q : Query) : m (Except Failure Query) :=
  match b.read? with
  | none =>
    pure (if q.mode = .keep then .ok q else .error (.readerMissing q.mode))
  | some read => do
    match ← read q.sql with
    | .ok s =>
      return .ok { q with mode := if s.returning then .returning else q.mode, statement := some s }
    | .error _ => return .ok { q with mode := .keep }

/-- Looks up the columns of the statement's table and quotes the names of those at positions that
are wanted, in the order of the answer. -/
def lookUp (b : Backend m) (q : Query) (wanted : Int → Bool) : m (Except Failure (List Text)) :=
  match q.statement with
  | none => pure (.error .statementMissing)
  | some s => do
    match ← b.columns (TableName.pattern s.table) with
    | .ok columns =>
      return .ok ((columns.filter fun c => wanted c.position).map fun c => quoteName c.name)
    | .error cause => return .error (.metadata cause)

def Selection.wantedPositions : Selection → List Int
  | .positions wanted => wanted
  | _ => []

def Selection.wantedNames : Selection → List Text
  | .names wanted => wanted
  | _ => []

/-- The columns to add, if the mode is one that adds columns. -/
def additions (b : Backend m) (q : Query) : m (Except Failure (Option (List Text))) :=
  match q.mode with
  | .addAll => do return (← q.lookUp b fun _ => true).map some
  | .addPositions => do
    let wanted := Positions.ofList q.selection.wantedPositions
    return (← q.lookUp b wanted.contains).map some
  | .addNames => pure (.ok (some q.selection.wantedNames))
  | .keep | .returning => pure (.ok none)

def conclude (q : Query) : Option (List Text) → Query × Result
  | some (c :: cs) =>
    let r : Result := ⟨true, addReturning q.sql (c :: cs)⟩
    ({ q with progress := .done r }, r)
  | _ =>
    let r : Result := ⟨q.mode == .returning, q.sql⟩
    ({ q with mode := .keep, progress := .done r }, r)

def processNow (b : Backend m) (q : Query) : m (Query × Except Failure Result) := do
  match ← q.readStatement b with
  | .error e => return ({ q with progress := .failed }, .error e)
  | .ok q =>
    match ← q.additions b with
    | .error e => return ({ q with progress := .failed }, .error e)
    | .ok columns =>
      let concluded := q.conclude columns
      return (concluded.1, .ok concluded.2)

/-- What processing a query comes to, and the query afterwards. A query that has been processed is
not processed again. -/
def process (b : Backend m) (q : Query) : m (Query × Except Failure Result) :=
  match q.progress with
  | .unprocessed => q.processNow b
  | .done r => pure (q, .ok r)
  | .failed => pure (q, .error .previouslyFailed)

end GeneratedKeys.Query
