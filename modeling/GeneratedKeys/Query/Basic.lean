import GeneratedKeys.Statement.Basic

/-!
# Queries

A query is a statement text together with the columns its caller wants back. It is processed at
most once; what came of it is kept.
-/
namespace GeneratedKeys.Query

/-- The two plain wishes: all generated keys, or none. -/
inductive Wish
  | returnKeys
  | noKeys
deriving DecidableEq, Repr

namespace Wish

def name : Wish → String
  | .returnKeys => "ReturnGeneratedKeys"
  | .noKeys => "NoGeneratedKeys"

def flag : Wish → Int
  | .returnKeys => 1
  | .noKeys => 2

def ofFlag? (flag : Int) : Option Wish :=
  if flag = 1 then some .returnKeys else if flag = 2 then some .noKeys else none

theorem ofFlag?_eq_some_iff {flag : Int} {w : Wish} : ofFlag? flag = some w ↔ flag = w.flag := by
  cases w <;> simp only [ofFlag?, Wish.flag] <;> split <;> (try split) <;> simp_all

end Wish

inductive Selection
  /-- None, and the statement stays as it is. -/
  | none
  | all
  | positions (wanted : List Int)
  /-- Names or expressions, as given. -/
  | names (wanted : List Text)
deriving DecidableEq, Repr

inductive Mode
  | keep
  | addAll
  | addPositions
  | addNames
  | returning
deriving DecidableEq, Repr

def Mode.name : Mode → String
  | .keep => "KeepUnmodified"
  | .addAll => "AddAllColumns"
  | .addPositions => "AddIndexed"
  | .addNames => "AddNamed"
  | .returning => "AlreadyHasReturning"

/-- What is to be done for a selection, before the statement has been read. -/
def Selection.mode : Selection → Mode
  | .none => .keep
  | .all => .addAll
  | .positions _ => .addPositions
  | .names _ => .addNames

inductive Failure
  | invalidFlag (flag : Int)
  /-- Something is to be added, but there is nothing to read the statement with. -/
  | readerMissing (mode : Mode)
  /-- Columns are to be looked up, but no statement has been read. -/
  | statementMissing
  /-- Columns are wanted, but there is nothing to read statements with. -/
  | featureUnavailable
  | rejected (r : Statement.Rejection)
  | metadata (cause : String)
  | previouslyFailed
deriving DecidableEq, Repr

def unavailableMessage : String :=
  "Generated keys functionality not available, no statement parser was loaded"

def Failure.message : Failure → String
  | .invalidFlag flag =>
    s!"invalid configuration: Supplied value for autoGeneratedKeys is invalid: {flag}"
  | .readerMissing mode =>
    s!"invalid configuration: query mode {mode.name} requires a statement parser; " ++
      unavailableMessage
  | .statementMissing => "invalid configuration: column lookup requires a parsed statement"
  | .featureUnavailable => unavailableMessage
  | .rejected r => s!"parse error: {r.message}"
  | .metadata cause => s!"metadata error: {cause}"
  | .previouslyFailed => "generated keys processing already failed for this query"

/-- What processing comes to: the text to execute, and whether executing it returns keys. -/
structure Result where
  generatesKeys : Bool
  sql : Text
deriving DecidableEq, Repr

inductive Progress
  | unprocessed
  | done (r : Result)
  | failed
deriving DecidableEq, Repr

end Query

/-- A statement text, the columns wanted, and what is known so far. -/
structure Query where
  sql : Text
  selection : Query.Selection
  mode : Query.Mode
  statement : Option Statement
  progress : Query.Progress
deriving DecidableEq, Repr

namespace Query

/-- The query before anything is known of its statement. -/
def ofSelection (sql : Text) (selection : Selection) : Query :=
  ⟨sql, selection, selection.mode, none, .unprocessed⟩

/-- The ways of asking for columns. A list may be missing. -/
inductive Request
  | wish (w : Wish)
  | flag (n : Int)
  | positions (wanted : Option (List Int))
  | names (wanted : Option (List Text))
deriving DecidableEq, Repr

/-- The selection for a wish; keys are only to be had where statements can be read. -/
def Wish.selection (canRead : Bool) : Wish → Except Failure Selection
  | .noKeys => .ok .none
  | .returnKeys => if canRead then .ok .all else .error .featureUnavailable

/-- The selection asked for. Lists need statements to be read even if they are empty or missing;
such lists select nothing. -/
def Request.selection (canRead : Bool) : Request → Except Failure Selection
  | .wish w => w.selection canRead
  | .flag n =>
    match Wish.ofFlag? n with
    | some w => w.selection canRead
    | none => .error (.invalidFlag n)
  | .positions wanted =>
    if canRead then
      match wanted with
      | some (n :: ns) => .ok (.positions (n :: ns))
      | _ => .ok .none
    else .error .featureUnavailable
  | .names wanted =>
    if canRead then
      match wanted with
      | some (n :: ns) => .ok (.names (n :: ns))
      | _ => .ok .none
    else .error .featureUnavailable

def make (canRead : Bool) (sql : Text) (request : Request) : Except Failure Query :=
  (request.selection canRead).map (ofSelection sql)

end Query
end GeneratedKeys
