import GeneratedKeys.Catalog.Basic
import GeneratedKeys.Database.Basic
import GeneratedKeys.Query.Process
import GeneratedKeys.Support

/-!
# Column sources

Columns come from a catalog in memory or from a database, whose engine can fail. A host holds the
source that queries share, says whether looking up works at the moment, and counts what it is asked.
-/
namespace GeneratedKeys

inductive Source
  | catalog (c : Catalog)
  | database (db : Database)
  /-- A file that has been opened as a database, but holds something else. -/
  | foreign
deriving DecidableEq, Repr

namespace Source

def lookup : Source → Text → Except Database.LookupError (List Column)
  | .catalog c, pattern => .ok (c.lookup pattern)
  | .database db, pattern => db.lookup pattern
  | .foreign, _ => .error .notDatabase

/-- What a file without tables is as a source, by its size: a database that is still to be written
takes at most one byte. -/
def ofBareFile (size : Nat) : Source :=
  if size ≤ 1 then .database .empty else .foreign

/-- Adds a table; a database can refuse it, and numbers its columns itself. -/
def add? : Source → Table → Option Source
  | .catalog c, t => some (.catalog (c.add t))
  | .database db, t => (db.create? t.name (t.columns.map Column.name)).map .database
  | .foreign, _ => none

/-- The backend that reads with a support and looks up in a source. -/
def backend (support : Support) (source : Source) : Query.Backend Id where
  read? := support.read?
  columns pattern := (source.lookup pattern).mapError Database.LookupError.message

end Source

/-- A shared source and the calls made so far, the failed ones included. -/
structure Host where
  source : Source
  failing : Bool
  readerCalls : Nat
  lookups : Nat
deriving DecidableEq, Repr

namespace Host

/-- A source of which nothing has been asked. -/
def ofSource (source : Source) : Host :=
  ⟨source, false, 0, 0⟩

/-- The cause given while looking up fails. -/
def failureCause : String :=
  "connection reset"

/-- The cause given where the source fails, whose own wording a host does not pass on. -/
def sourceCause : String :=
  "sqlite"

def countReading (h : Host) : Host :=
  { h with readerCalls := h.readerCalls + 1 }

def lookup (h : Host) (pattern : Text) : Except String (List Column) × Host :=
  (if h.failing then .error failureCause
    else (h.source.lookup pattern).mapError fun _ => sourceCause,
    { h with lookups := h.lookups + 1 })

/-- The backend that a host is for queries. -/
def backend (support : Support) : Query.Backend (StateM Host) where
  read? := support.read?.map fun read sql => do
    modify countReading
    return read sql
  columns pattern := fun h => h.lookup pattern

end Host
end GeneratedKeys
