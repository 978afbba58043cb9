import GeneratedKeys.Text.Blank
import GeneratedKeys.Text.Upper

/-!
# Table names as patterns

A table is looked up by a pattern in which `%` and `_` are wildcards and a backslash takes the
next character as it is. A name as written in a statement is turned into the pattern that stands
for the table it denotes: a quoted name loses its quotes and keeps its case, any other name is
read in upper case.
-/
namespace GeneratedKeys.TableName

/-- Whether a character has a meaning of its own in a pattern. -/
def isWildcard (c : Char) : Bool :=
  c == '\x5c' || c == '_' || c == '%'

/-- A text as a pattern: a backslash stands before every character with a meaning of its own. -/
def escapeWildcards : Text → Text
  | [] => []
  | c :: t => if isWildcard c then '\x5c' :: c :: escapeWildcards t else c :: escapeWildcards t

/-- Whether a text stands between double quotes with something between them. -/
def isQuoted (t : Text) : Bool :=
  2 < Text.size t && t.head? == some '\x22' && t.getLast? == some '\x22'

/-- A text without its first and its last character. -/
def interior (t : Text) : Text :=
  t.tail.dropLast

/-- The pattern for the table that a written name denotes. -/
def pattern (name : Text) : Text :=
  let escaped := escapeWildcards (Text.trim name)
  if isQuoted escaped then interior escaped else Text.upper escaped

end GeneratedKeys.TableName
