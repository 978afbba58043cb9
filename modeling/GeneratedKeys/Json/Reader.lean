import GeneratedKeys.Json.Piece

/-!
# Reading documents

The pieces of a document are put together from left to right. What is still open is held in a list
of frames, the innermost first, so the nesting of a document is not limited by the reading.
-/
namespace GeneratedKeys.Json
namespace Reader

/-- A list or object that is still open, with what it holds so far in reverse. In an object,
`name` is the field that is being read. -/
inductive Frame
  | array (items : List Json)
  | object (fields : List Field) (name : Option Text)

inductive State
  | value (frames : List Frame)
  | firstItem (frames : List Frame)
  | firstName (frames : List Frame)
  | name (fields : List Field) (frames : List Frame)
  | colon (fields : List Field) (name : Option Text) (frames : List Frame)
  | done (v : Json) (frames : List Frame)

def startValue (frames : List Frame) : Piece → Option State
  | .openArray => some (.firstItem frames)
  | .openObject => some (.firstName frames)
  | .null => some (.done .null frames)
  | .bool b => some (.done (.bool b) frames)
  | .number n => some (.done (.number n) frames)
  | .string s => some (.done (.string s) frames)
  | _ => none

def step : State → Piece → Option State
  | .value frames, p => startValue frames p
  | .firstItem frames, .closeArray => some (.done (.array []) frames)
  | .firstItem frames, p => startValue (.array [] :: frames) p
  | .firstName frames, .closeObject => some (.done (.object []) frames)
  | .firstName frames, .string s => some (.colon [] s frames)
  | .name fields frames, .string s => some (.colon fields s frames)
  | .colon fields name frames, .colon => some (.value (.object fields name :: frames))
  | .done v (.array items :: frames), .comma => some (.value (.array (v :: items) :: frames))
  | .done v (.array items :: frames), .closeArray =>
    some (.done (.array (v :: items).reverse) frames)
  | .done v (.object fields name :: frames), .comma => some (.name ((name, v) :: fields) frames)
  | .done v (.object fields name :: frames), .closeObject =>
    some (.done (.object ((name, v) :: fields).reverse) frames)
  | _, _ => none

def finish : State → Option Json
  | .done v [] => some v
  | _ => none

end Reader

def read? (t : Text) : Option Json := do
  let pieces ← Piece.all? t
  let s ← pieces.foldlM Reader.step (.value [])
  Reader.finish s

end GeneratedKeys.Json
