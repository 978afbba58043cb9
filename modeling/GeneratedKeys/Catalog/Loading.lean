import GeneratedKeys.Catalog.Basic
import GeneratedKeys.Json.Fields
import GeneratedKeys.Json.Reader
import GeneratedKeys.Text.Utf8

/-!
# Loading catalogs

A catalog document lists tables. A column of a table is a name, or an object with a name and
perhaps a position; a column without a position takes its place in the list, counted from 1. The
whole document is read before any position is looked at, and the first position below 1 spoils the
catalog.
-/
namespace GeneratedKeys.Catalog

inductive LoadError
  | missing
  | notText
  | malformed
  /-- A column's position is below 1. -/
  | badPosition (table column : Text) (position : Int)
deriving DecidableEq, Repr

def LoadError.message : LoadError → String
  | .missing => "IO error: No such file or directory (os error 2)"
  | .notText => "IO error: stream did not contain valid UTF-8"
  | .malformed => "invalid catalog"
  | .badPosition table column position =>
    s!"column '{String.ofList column}' of table '{String.ofList table}' has invalid position " ++
      toString position

/-- A column as listed: its name, and its position if one is given. -/
structure ListedColumn where
  name : Text
  position : Option Int
deriving DecidableEq, Repr

structure ListedTable where
  name : Text
  columns : List ListedColumn
deriving DecidableEq, Repr

/-- The number of lists and objects around a column in a catalog document. -/
def columnDepth : Nat := 4

/-- The listed column that a document holds. An object must be readable as a whole. -/
def listedColumn? : Json → Option ListedColumn
  | .string s => s.map fun name => ⟨name, none⟩
  | .object fields =>
    if Json.isReadable columnDepth (.object fields) then do
      let name ← (← Json.valueOf? "name" fields).text?
      match Json.valuesOf "position" fields with
      | [] | [.null] => return ⟨name, none⟩
      | [position] => return ⟨name, some (← position.int32?)⟩
      | _ => none
    else none
  | _ => none

def listedTable? (j : Json) : Option ListedTable :=
  match j.record? ["name", "columns"] with
  | some [name, columns] => do
    return ⟨← name.text?, ← (← columns.list?).mapM listedColumn?⟩
  | _ => none

def listedTables? (j : Json) : Option (List ListedTable) :=
  match j.record? ["tables"] with
  | some [tables] => do (← tables.list?).mapM listedTable?
  | _ => none

/-- Gives listed columns their positions, the first of them having place `k` in the list. -/
def placeColumns (table : Text) (k : Int) : List ListedColumn → Except LoadError (List Column)
  | [] => .ok []
  | c :: rest =>
    let position := c.position.getD k
    if position < 1 then .error (.badPosition table c.name position)
    else (placeColumns table (k + 1) rest).map (⟨c.name, position⟩ :: ·)

def placeTable (t : ListedTable) : Except LoadError Table :=
  (placeColumns t.name 1 t.columns).map (⟨t.name, ·⟩)

def ofListing (tables : List ListedTable) : Except LoadError Catalog :=
  (tables.mapM placeTable).map (⟨·⟩)

def ofText (t : Text) : Except LoadError Catalog :=
  match (Json.read? t).bind listedTables? with
  | some tables => ofListing tables
  | none => .error .malformed

/-- Loads a catalog from the bytes of a file, which may be missing. -/
def ofFile : Option ByteArray → Except LoadError Catalog
  | none => .error .missing
  | some bytes =>
    match Text.ofUtf8? bytes with
    | some t => ofText t
    | none => .error .notText

end GeneratedKeys.Catalog
