import GeneratedKeys.Token.Display

/-!
# Statements

What is known of a data-modifying statement once its head has been read, and why a text can be
rejected as such a statement.
-/
namespace GeneratedKeys

inductive Statement.Kind
  | insert
  | update
  | delete
  | updateOrInsert
deriving DecidableEq, Repr

/-- A data-modifying statement: its form, the table it changes as written (any quotes included),
and whether it already returns columns. -/
structure Statement where
  kind : Statement.Kind
  schema : Option Text
  table : Text
  returning : Bool
deriving DecidableEq, Repr

namespace Statement

def Kind.name : Kind → String
  | .insert => "Insert"
  | .update => "Update"
  | .delete => "Delete"
  | .updateOrInsert => "UpdateOrInsert"

inductive Expected
  | statement
  | keyword (k : Keyword)
  | identifier
  | source
  | leftParen
  | rightParen
  | eq
  | validToken
deriving DecidableEq, Repr

def Expected.text : Expected → String
  | .statement => "INSERT, UPDATE, DELETE, or UPDATE OR INSERT"
  | .keyword k => k.word
  | .identifier => "identifier"
  | .source => "VALUES, SELECT, or DEFAULT VALUES"
  | .leftParen => "LeftParen"
  | .rightParen => "RightParen"
  | .eq => "Eq"
  | .validToken => "a valid token"

inductive Fault
  | unexpected (expected : Expected) (found : Token.Kind)
  | mergeUnsupported
  | unbalanced
  | secondStatement
deriving DecidableEq, Repr

namespace Fault

/-- What was expected instead, where a fault has one. -/
def expected? : Fault → Option Expected
  | .unexpected expected _ => some expected
  | _ => none

/-- The kind of token that was found instead, where a fault has one. -/
def found? : Fault → Option Token.Kind
  | .unexpected _ found => some found
  | _ => none

/-- The wording of a fault. A malformed piece of text speaks for itself. -/
def message : Fault → String
  | .unexpected expected .eof => s!"Unexpected end of input: expected {expected.text}"
  | .unexpected expected (.malformed m) => s!"{m.message} (expected {expected.text})"
  | .unexpected expected found =>
    s!"Unexpected token: expected {expected.text}, found {found.describe}"
  | .mergeUnsupported => "MERGE statements are not supported"
  | .unbalanced => "Unbalanced closing parenthesis"
  | .secondStatement => "Only a single statement is supported"

end Fault

/-- A fault and the place of the token it was found at. -/
structure Rejection where
  fault : Fault
  span : Text.Span
deriving DecidableEq, Repr

def Rejection.message (r : Rejection) : String :=
  s!"{r.fault.message} at position {r.span.start}..{r.span.stop}"

end Statement
end GeneratedKeys
