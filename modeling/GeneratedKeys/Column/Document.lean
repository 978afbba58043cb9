import GeneratedKeys.Column.Basic
import GeneratedKeys.Json.Fields
import GeneratedKeys.Json.Reader
import GeneratedKeys.Json.Writer

/-!
# Columns as documents

A column by itself is written as a record of its name and its position, without any space.
-/
namespace GeneratedKeys.Column

def fieldNames : List String :=
  ["name", "ordinal_position"]

def ofJson? (j : Json) : Option Column :=
  match j.record? fieldNames with
  | some [name, position] => do return ⟨← name.text?, ← position.int32?⟩
  | _ => none

def read? (t : Text) : Option Column :=
  (Json.read? t).bind ofJson?

def write (c : Column) : Text :=
  "\x7b\"name\":".toList ++ Json.writeString c.name ++ ",\"ordinal_position\":".toList ++
    Text.ofInt c.position ++ ['\x7d']

end GeneratedKeys.Column
