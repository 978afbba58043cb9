import GeneratedKeys.Text.Span

/-!
# Tokens

The words, literals and signs of a statement. A token keeps its kind, its text as written and the
byte offset where it starts; the span it covers follows from these.
-/
namespace GeneratedKeys

/-- The words that shape the head of a data-modifying statement. -/
inductive Keyword
  | INSERT | UPDATE | DELETE | MERGE | SELECT | WITH
  | INTO | VALUES | DEFAULT | SET | FROM | WHERE | OR | AS | MATCHING | RETURNING
deriving DecidableEq, Repr

namespace Keyword

def all : List Keyword :=
  [.INSERT, .UPDATE, .DELETE, .MERGE, .SELECT, .WITH, .INTO, .VALUES, .DEFAULT, .SET, .FROM,
    .WHERE, .OR, .AS, .MATCHING, .RETURNING]

theorem mem_all (k : Keyword) : k ∈ all := by
  cases k <;> decide

/-- The upper-case word of a keyword. -/
def word : Keyword → String
  | .INSERT => "INSERT"
  | .UPDATE => "UPDATE"
  | .DELETE => "DELETE"
  | .MERGE => "MERGE"
  | .SELECT => "SELECT"
  | .WITH => "WITH"
  | .INTO => "INTO"
  | .VALUES => "VALUES"
  | .DEFAULT => "DEFAULT"
  | .SET => "SET"
  | .FROM => "FROM"
  | .WHERE => "WHERE"
  | .OR => "OR"
  | .AS => "AS"
  | .MATCHING => "MATCHING"
  | .RETURNING => "RETURNING"

def letters (k : Keyword) : Text :=
  k.word.toList

/-- The keyword that a text spells, up to the case of ASCII letters. -/
def ofText? (t : Text) : Option Keyword :=
  all.find? fun k => k.letters == t.map Char.toUpper

end Keyword

/-- What can be wrong with a piece of text that is no token. -/
inductive Malformed
  | unexpected (c : Char)
  | openString
  | openIdentifier
  | emptyIdentifier
deriving DecidableEq, Repr

def Malformed.message : Malformed → String
  | .unexpected c => s!"Unexpected character: {c}"
  | .openString => "Unterminated string literal"
  | .openIdentifier => "Unterminated quoted identifier"
  | .emptyIdentifier => "Empty quoted identifier"

namespace Token

/-- The kinds of tokens. Strings and quoted identifiers carry their content, without the marks
around it and with doubled marks read as one; numbers, identifiers and operators carry their text
as written. -/
inductive Kind
  | number (text : Text)
  | string (content : Text)
  | identifier (text : Text)
  | quotedIdentifier (content : Text)
  | keyword (k : Keyword)
  | leftParen
  | rightParen
  | comma
  | semicolon
  | dot
  | eq
  | question
  | colon
  | operator (text : Text)
  | eof
  | malformed (m : Malformed)
deriving DecidableEq, Repr

/-- Whether a kind is that of a plain or quoted identifier. -/
def Kind.isIdentifier : Kind → Bool
  | .identifier _ | .quotedIdentifier _ => true
  | _ => false

end Token

/-- A token at its place in a text. -/
structure Token where
  kind : Token.Kind
  raw : Text
  start : Nat
deriving DecidableEq, Repr

namespace Token

def stop (t : Token) : Nat :=
  t.start + t.raw.size

def span (t : Token) : Text.Span :=
  ⟨t.start, t.stop⟩

end Token
end GeneratedKeys
