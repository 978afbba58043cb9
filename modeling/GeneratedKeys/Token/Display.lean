import GeneratedKeys.Text.Escaped
import GeneratedKeys.Token.Basic

/-!
# Tokens in messages

A kind of token is shown by its name, with what it carries in parentheses.
-/
namespace GeneratedKeys

/-- A keyword's name: its word with only the first letter in upper case. -/
def Keyword.name (k : Keyword) : String :=
  match k.letters with
  | [] => ""
  | c :: t => String.ofList (c :: t.map Char.toLower)

namespace Token.Kind

def name : Kind → String
  | .number _ => "Number"
  | .string _ => "String"
  | .identifier _ => "Identifier"
  | .quotedIdentifier _ => "QuotedIdentifier"
  | .keyword _ => "Keyword"
  | .leftParen => "LeftParen"
  | .rightParen => "RightParen"
  | .comma => "Comma"
  | .semicolon => "Semicolon"
  | .dot => "Dot"
  | .eq => "Eq"
  | .question => "Question"
  | .colon => "Colon"
  | .operator _ => "Operator"
  | .eof => "Eof"
  | .malformed _ => "Error"

/-- The text that a kind carries: the content of a literal, the word of a keyword, the wording of
a malformed piece. -/
def payload? : Kind → Option String
  | .number t | .string t | .identifier t | .quotedIdentifier t | .operator t =>
    some (String.ofList t)
  | .keyword k => some k.word
  | .malformed m => some m.message
  | _ => none

/-- A kind as it is shown in a message. -/
def describe : Kind → String
  | .keyword k => s!"Keyword({k.name})"
  | kind =>
    match kind.payload? with
    | some t => s!"{kind.name}({String.ofList (Text.escaped t.toList)})"
    | none => kind.name

end Token.Kind
end GeneratedKeys
