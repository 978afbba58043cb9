import GeneratedKeys.Json.Number

/-!
# Documents

A document keeps what was written: the order of fields, repeated fields, and numbers in their
parts. A string whose escapes name half of a surrogate pair stands for no text.
-/
namespace GeneratedKeys

/-- A document. Strings and the names of fields are missing where they stand for no text. -/
inductive Json
  | null
  | bool (b : Bool)
  | number (n : Json.Number)
  | string (s : Option Text)
  | array (items : List Json)
  | object (fields : List (Option Text × Json))
deriving Repr

namespace Json

abbrev Field := Option Text × Json

/-- The most lists and objects that may stand inside one another. -/
def maxDepth : Nat := 127

mutual

/-- Whether everything in a document, which stands inside `depth` lists and objects, has a value:
strings stand for texts, numbers are in range, and the nesting is not too deep. -/
def isReadable (depth : Nat) : Json → Bool
  | .null | .bool _ => true
  | .number n => n.inRange
  | .string s => s.isSome
  | .array items => depth < maxDepth && areReadable (depth + 1) items
  | .object fields => depth < maxDepth && fieldsReadable (depth + 1) fields

def areReadable (depth : Nat) : List Json → Bool
  | [] => true
  | item :: items => isReadable depth item && areReadable depth items

/-- Whether all fields of an object are readable, names included. -/
def fieldsReadable (depth : Nat) : List (Option Text × Json) → Bool
  | [] => true
  | (name, value) :: fields => name.isSome && isReadable depth value && fieldsReadable depth fields

end

end Json
end GeneratedKeys
