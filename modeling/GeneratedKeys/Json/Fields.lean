import GeneratedKeys.Json.Basic

/-!
# Records in documents

A record is written as an object in which each of its fields stands once, among others of any
name, or as a list of what its fields hold, in their order.
-/
namespace GeneratedKeys.Json

def text? : Json → Option Text
  | .string s => s
  | _ => none

def int32? : Json → Option Int
  | .number n => n.toInt32?
  | _ => none

def list? : Json → Option (List Json)
  | .array items => some items
  | _ => none

def valuesOf (name : String) (fields : List Field) : List Json :=
  (fields.filter fun f => f.1 == some name.toList).map Prod.snd

def valueOf? (name : String) (fields : List Field) : Option Json :=
  match valuesOf name fields with
  | [v] => some v
  | _ => none

/-- What the fields of a record hold, in the order of their names. The names of all fields must
be texts, those of other fields too. -/
def record? (names : List String) : Json → Option (List Json)
  | .array items => if items.length = names.length then some items else none
  | .object fields =>
    if fields.all (·.1.isSome) then names.mapM (valueOf? · fields) else none
  | _ => none

end GeneratedKeys.Json
