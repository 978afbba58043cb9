import GeneratedKeys.Pattern
import GeneratedKeys.Table

/-!
# Databases

A database as far as its tables can be created and looked up. The engine keeps one table for each
name up to the case of ASCII letters, compares names with patterns in the same way, and answers in
the order of the names' code points, which is the order of their bytes. To the engine a text ends
at its first NUL: a name with a NUL cannot be written down, and a pattern is cut there.
-/
namespace GeneratedKeys

/-- The tables of a database, in the order of their creation. -/
structure Database where
  tables : List Table
deriving DecidableEq, Repr

namespace Database

def empty : Database :=
  ⟨[]⟩

/-- A name with its ASCII letters in lower case. -/
def fold (name : Text) : Text :=
  name.map Char.toLower

/-- Whether two characters are the same up to the case of ASCII letters. -/
def sameLetter (c d : Char) : Bool :=
  c.toLower == d.toLower

/-- Whether a name is kept for the engine's own tables. -/
def isReserved (name : Text) : Bool :=
  "sqlite_".toList.isPrefixOf (fold name)

def hasRepeat : List Text → Bool
  | [] => false
  | name :: names => names.contains name || hasRepeat names

/-- The character at which the engine ends a text. -/
def terminator : Char :=
  '\x00'

def isWritable (name : Text) : Bool :=
  !name.contains terminator

def maxColumns : Nat :=
  2000

/-- Whether a list of names can be the columns of a table: there are some, not too many, and they
are different. -/
def admitsColumns (columns : List Text) : Bool :=
  !columns.isEmpty && columns.length ≤ maxColumns && columns.all isWritable &&
    !hasRepeat (columns.map fold)

/-- Whether a table can be created: its columns can, and its own name is neither reserved nor
taken. -/
def admits (db : Database) (name : Text) (columns : List Text) : Bool :=
  admitsColumns columns && isWritable name && !isReserved name &&
    db.tables.all fun t => fold t.name != fold name

def create? (db : Database) (name : Text) (columns : List Text) : Option Database :=
  if db.admits name columns then some ⟨db.tables ++ [Table.ofNames name columns]⟩ else none

/-- Creates tables in turn, all of which must be created. -/
def ofTables? (tables : List (Text × List Text)) : Option Database :=
  tables.foldlM (fun db t => db.create? t.1 t.2) empty

/-- Creates tables in turn. One that cannot be created is left out; the answers say which were
created. -/
def createAll (db : Database) : List (Text × List Text) → Database × List Bool
  | [] => (db, [])
  | t :: rest =>
    match db.create? t.1 t.2 with
    | some db =>
      let others := createAll db rest
      (others.1, true :: others.2)
    | none =>
      let others := createAll db rest
      (others.1, false :: others.2)

/-- A character as the engine reads it where it compares. Two code points that are no characters
are read as the replacement character. -/
def readChar (c : Char) : Char :=
  if c = '\ufffe' ∨ c = '\uffff' then '\ufffd' else c

/-- The items of a written pattern, of which what follows a terminator is no part. A pattern that
ends in an escape fits nothing. -/
def patternItems (pattern : Text) : List Pattern.Item :=
  Pattern.ofText .never ((pattern.takeWhile (· != terminator)).map readChar)

/-- Whether a table's name fits a written pattern up to the case of ASCII letters. -/
def fits (pattern name : Text) : Bool :=
  Pattern.accepts sameLetter (patternItems pattern) (name.map readChar)

/-! ### Looking up -/

inductive LookupError
  /-- The pattern is longer than the engine takes. -/
  | patternTooLong
  /-- A table has the name of the function that lists columns. -/
  | functionHidden
  /-- What has been opened is no database. -/
  | notDatabase
deriving DecidableEq, Repr

def LookupError.code : LookupError → Nat
  | .patternTooLong | .functionHidden => 1
  | .notDatabase => 26

/-- The function that lists the columns of a table. -/
def columnFunction : String :=
  "pragma_table_info"

def LookupError.reason : LookupError → String
  | .patternTooLong => "LIKE or GLOB pattern too complex"
  | .functionHidden => s!"\x27{columnFunction}\x27 is not a function"
  | .notDatabase => "file is not a database"

def LookupError.message (e : LookupError) : String :=
  s!"database error: error returned from database: (code: {e.code}) {e.reason}"

def maxPatternSize : Nat :=
  50000

/-- Whether the engine compares names with a pattern. Where there are no names it does not look at
the pattern's size. -/
def takesPattern (db : Database) (pattern : Text) : Bool :=
  db.tables.isEmpty || Text.size pattern ≤ maxPatternSize

def hidesFunction (db : Database) : Bool :=
  db.tables.any fun t => fold t.name == columnFunction.toList

/-- Whether a name comes before another in the order of code points. -/
def comesBefore (a b : Text) : Bool :=
  a.lex b fun c d => c.toNat < d.toNat

/-- The tables whose names fit a pattern, in the order of the names. -/
def found (db : Database) (pattern : Text) : List Table :=
  (db.tables.filter fun t => fits pattern t.name).mergeSort fun a b => !comesBefore b.name a.name

/-- The columns of all tables whose names fit a pattern, in the order of the names. The function
that lists columns is called only for tables that have been found. -/
def lookup (db : Database) (pattern : Text) : Except LookupError (List Column) :=
  if !db.takesPattern pattern then .error .patternTooLong
  else if !(db.found pattern).isEmpty && db.hidesFunction then .error .functionHidden
  else .ok ((db.found pattern).flatMap Table.columns)

end Database
end GeneratedKeys
