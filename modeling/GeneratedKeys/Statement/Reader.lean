import GeneratedKeys.Statement.Basic
import GeneratedKeys.Token.Lexer

/-!
# Reading statements

A statement is read token by token. The head (the leading words, the table and what must follow
it) is read strictly:

    INSERT INTO name [columns] VALUES ( body
    INSERT INTO name [columns] DEFAULT VALUES body
    INSERT INTO name [columns] body            the body starts with SELECT or WITH
    UPDATE OR INSERT INTO name [columns] VALUES ( body
    UPDATE name [[AS] alias] SET column [. column] = body
    DELETE FROM name [[AS] alias] body

Of the body only the nesting of parentheses is followed: they must balance, a semicolon outside
them must be the last token, and RETURNING outside them is noticed.

A state says what has been read so far. An optional part that does not come is skipped: `settle`
turns a state into the one without its optional part, so each state is refused only by what it
cannot do without.
-/
namespace GeneratedKeys.Statement

structure Target where
  schema : Option Text
  table : Text
deriving DecidableEq, Repr

namespace Reader

/-- How far a statement has been read. -/
inductive State
  | start
  | update
  | updateOr
  | into (kind : Kind)
  | from
  /-- The table's name comes next. -/
  | name (kind : Kind)
  /-- One identifier of the table's name has been read. -/
  | named (kind : Kind) (first : Text)
  /-- The table's name after a schema comes next. -/
  | qualified (kind : Kind) (schema : Text)
  /-- The table's whole name has been read. -/
  | located (kind : Kind) (target : Target)
  /-- A name in the column list comes next. -/
  | column (kind : Kind) (target : Target)
  /-- A name in the column list has been read. -/
  | columnEnd (kind : Kind) (target : Target)
  /-- The rows to insert come next. -/
  | source (kind : Kind) (target : Target)
  | values (kind : Kind) (target : Target)
  | defaults (kind : Kind) (target : Target)
  | byname (kind : Kind) (target : Target)
  /-- What follows the table and its alias comes next. -/
  | clause (kind : Kind) (target : Target)
  | assignee (kind : Kind) (target : Target)
  /-- One identifier of the column to set has been read. -/
  | assigned (kind : Kind) (target : Target)
  /-- The column to set after its qualifier comes next. -/
  | field (kind : Kind) (target : Target)
  | equals (kind : Kind) (target : Target)
  /-- The head has been read, and `depth` parentheses are open. -/
  | body (kind : Kind) (target : Target) (depth : Nat) (returning : Bool)
  | closed (kind : Kind) (target : Target) (returning : Bool)
deriving DecidableEq, Repr

/-- The state once a table's whole name has been read, if no optional part follows it. -/
def afterTarget (kind : Kind) (target : Target) : State :=
  match kind with
  | .insert | .updateOrInsert => .source kind target
  | .update => .clause kind target
  | .delete => .body kind target 0 false

/-- The state without the optional part that could come next. -/
def State.settle : State → State
  | .update => .name .update
  | .named kind first => afterTarget kind ⟨none, first⟩
  | .located kind target => afterTarget kind target
  | .clause .delete target => .body .delete target 0 false
  | .assigned kind target => .equals kind target
  | s => s

/-- The state after a token that starts an optional part behind the table's name: a column list
where rows are inserted, an alias elsewhere. -/
def optionAfterTarget? (kind : Kind) (target : Target) (t : Token.Kind) : Option State :=
  match kind, t with
  | .insert, .leftParen | .updateOrInsert, .leftParen => some (.column kind target)
  | .update, .keyword .AS | .delete, .keyword .AS => some (.byname kind target)
  | .update, .identifier _ | .update, .quotedIdentifier _
  | .delete, .identifier _ | .delete, .quotedIdentifier _ => some (.clause kind target)
  | _, _ => none

/-- The state after a token that starts an optional part or goes on with one. -/
def option? : State → Token.Kind → Option State
  | .update, .keyword .OR => some .updateOr
  | .named kind first, .dot => some (.qualified kind first)
  | .named kind first, t => optionAfterTarget? kind ⟨none, first⟩ t
  | .located kind target, t => optionAfterTarget? kind target t
  | .columnEnd kind target, .comma => some (.column kind target)
  | .assigned kind target, .dot => some (.field kind target)
  | _, _ => none

/-- What must come next, in a state that is still in the head. -/
def State.expected : State → Expected
  | .updateOr => .keyword .INSERT
  | .into _ => .keyword .INTO
  | .from => .keyword .FROM
  | .name _ | .qualified _ _ | .column _ _ | .byname _ _ | .assignee _ _ | .field _ _ => .identifier
  | .columnEnd _ _ => .rightParen
  | .source .insert _ => .source
  | .source _ _ | .defaults _ _ => .keyword .VALUES
  | .values _ _ => .leftParen
  | .clause _ _ => .keyword .SET
  | .equals _ _ => .eq
  | .body _ _ _ _ => .rightParen
  | _ => .statement

/-- The state after an identifier that had to come. -/
def afterIdentifier? (raw : Text) : State → Option State
  | .name kind => some (.named kind raw)
  | .qualified kind schema => some (.located kind ⟨some schema, raw⟩)
  | .column kind target => some (.columnEnd kind target)
  | .byname kind target => some (.clause kind target)
  | .assignee kind target => some (.assigned kind target)
  | .field kind target => some (.equals kind target)
  | _ => none

/-- The state after a token of the head that had to come. -/
def required? (s : State) (t : Token) : Option State :=
  match s, t.kind with
  | .start, .keyword .INSERT => some (.into .insert)
  | .start, .keyword .UPDATE => some .update
  | .start, .keyword .DELETE => some .from
  | .updateOr, .keyword .INSERT => some (.into .updateOrInsert)
  | .into kind, .keyword .INTO => some (.name kind)
  | .from, .keyword .FROM => some (.name .delete)
  | .columnEnd kind target, .rightParen => some (.source kind target)
  | .source kind target, .keyword .VALUES => some (.values kind target)
  | .source .insert target, .keyword .DEFAULT => some (.defaults .insert target)
  | .source .insert target, .keyword .SELECT => some (.body .insert target 0 false)
  | .source .insert target, .keyword .WITH => some (.body .insert target 0 false)
  | .values kind target, .leftParen => some (.body kind target 1 false)
  | .defaults kind target, .keyword .VALUES => some (.body kind target 0 false)
  | .clause kind target, .keyword .SET => some (.assignee kind target)
  | .equals kind target, .eq => some (.body kind target 0 false)
  | s, .identifier _ | s, .quotedIdentifier _ => afterIdentifier? t.raw s
  | _, _ => none

def bodyStep (kind : Kind) (target : Target) (depth : Nat) (returning : Bool) (t : Token.Kind) :
    Except Fault State :=
  match t with
  | .malformed _ => .error (.unexpected .validToken t)
  | .leftParen => .ok (.body kind target (depth + 1) returning)
  | .rightParen =>
    match depth with
    | 0 => .error .unbalanced
    | d + 1 => .ok (.body kind target d returning)
  | .keyword .RETURNING => .ok (.body kind target depth (returning || depth == 0))
  | .semicolon =>
    if depth = 0 then .ok (.closed kind target returning)
    else .ok (.body kind target depth returning)
  | _ => .ok (.body kind target depth returning)

/-- Goes on with a token that belongs to no optional part. -/
def advance (s : State) (t : Token) : Except Fault State :=
  match s with
  | .body kind target depth returning => bodyStep kind target depth returning t.kind
  | .closed _ _ _ => .error .secondStatement
  | s =>
    match required? s t with
    | some s' => .ok s'
    | none =>
      if s = .start ∧ t.kind = .keyword .MERGE then .error .mergeUnsupported
      else .error (.unexpected s.expected t.kind)

def step (s : State) (t : Token) : Except Fault State :=
  match option? s t.kind with
  | some s' => .ok s'
  | none => advance s.settle t

/-- The statement that has been read when no token is left. -/
def finish (s : State) : Except Fault Statement :=
  match s.settle with
  | .body kind target 0 returning | .closed kind target returning =>
    .ok ⟨kind, target.schema, target.table, returning⟩
  | s => .error (.unexpected s.expected .eof)

end Reader

/-- A fault at the place of a token. -/
def Fault.at (f : Fault) (t : Token) : Rejection :=
  ⟨f, t.span⟩

def Reader.run (s : Reader.State) (ts : List Token) : Except Rejection Reader.State :=
  ts.foldlM (fun s t => (Reader.step s t).mapError (·.at t)) s

/-- Reads a text as one data-modifying statement. -/
def read (sql : Text) : Except Rejection Statement := do
  let s ← Reader.run .start (Token.lexemes sql)
  (Reader.finish s).mapError (·.at (Token.atEnd sql))

end GeneratedKeys.Statement
