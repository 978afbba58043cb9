import GeneratedKeys.Catalog.Loading
import GeneratedKeys.Command.Options
import GeneratedKeys.Database.Location
import GeneratedKeys.Source
import GeneratedKeys.Text.Blank

/-!
# Running a command

A command gets its source, then its statement, then the text to execute, and prints the latter on
a line. The first of these that cannot be had is reported, and nothing is printed.
-/
namespace GeneratedKeys.Command

/-- What a command reads: files by path, databases by their files, and its input. A database is
created if it is missing and its access allows that. -/
structure Surroundings (m : Type → Type) where
  file : Text → m (Option ByteArray)
  database : Database.File → m (Option Source)
  input : m ByteArray

inductive Trouble
  | loading (path : Text)
  | connecting (url : Text)
  | reading
  | query (e : Query.Failure)
deriving DecidableEq, Repr

def Trouble.message : Trouble → String
  | .loading path => s!"Error: loading catalog {String.ofList path}"
  | .connecting url => s!"Error: connecting to {String.ofList url}"
  | .reading => "Error: reading statement from stdin"
  | .query e => s!"Error: {e.message}"

inductive Exit
  | printed (output : Text)
  | failed (t : Trouble)
  | refused
deriving DecidableEq, Repr

def Exit.code : Exit → Nat
  | .printed _ => 0
  | .failed _ => 1
  | .refused => 2

def versionLine : Text :=
  "oxide-keys 0.1.0\n".toList

variable {m : Type → Type} [Monad m]

/-- Connects to a database. One in memory is always there, and holds nothing. -/
def connect? (s : Surroundings m) (url : Text) : m (Option Source) :=
  match Database.locate? url with
  | none => pure none
  | some .memory => pure (some (.database .empty))
  | some (.file file) => s.database file

def loadSource (s : Surroundings m) : Origin → m (Except Trouble Source)
  | .nowhere => pure (.ok (.catalog .empty))
  | .catalog path => do
    match Catalog.ofFile (← s.file path) with
    | .ok c => return .ok (.catalog c)
    | .error _ => return .error (.loading path)
  | .database url => do
    match ← connect? s url with
    | some source => return .ok source
    | none => return .error (.connecting url)

/-- Gets the statement: as given, or else the input without the blanks at its end. -/
def loadStatement (s : Surroundings m) : Option Text → m (Except Trouble Text)
  | some sql => pure (.ok sql)
  | none => do
    match Text.ofUtf8? (← s.input) with
    | some t => return .ok (Text.trimEnd t)
    | none => return .error .reading

/-- The result of a query that is made for a statement and processed once. -/
def answer (source : Source) (sql : Text) (request : Query.Request) :
    Except Query.Failure Query.Result := do
  let q ← Query.make Support.builtin.isLoaded sql request
  (q.process (source.backend Support.builtin)).run.2

def Options.run (o : Options) (s : Surroundings m) : m (Except Trouble Text) := do
  match ← loadSource s o.source with
  | .error t => return .error t
  | .ok source =>
    match ← loadStatement s o.sql with
    | .error t => return .error t
    | .ok sql =>
      match answer source sql o.request with
      | .error e => return .error (.query e)
      | .ok r => return .ok (r.sql ++ ['\n'])

def run (args : List Text) (env : Environment) (s : Surroundings m) : m Exit := do
  match Options.read args env with
  | .error .refused => return .refused
  | .error .version => return .printed versionLine
  | .ok o =>
    match ← o.run s with
    | .ok output => return .printed output
    | .error t => return .failed t

end GeneratedKeys.Command
