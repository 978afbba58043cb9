import GeneratedKeys.Json.Reader
import GeneratedKeys.Proofs.Pieces

/-!
# The pieces of a document

A document stands for one sequence of pieces, and a text is read as a document if and only if it is
cut into the pieces of that document. In one direction what is still open at any moment is a
document of which a part has been written, and each piece adds to that part; in the other the
reading of a document's pieces comes to the document, whatever is open around it.
-/
namespace GeneratedKeys.Json

mutual

/-- The pieces that a document is written in. -/
def pieces : Json → List Piece
  | .null => [.null]
  | .bool b => [.bool b]
  | .number n => [.number n]
  | .string s => [.string s]
  | .array items => .openArray :: ((itemPieces items).tail ++ [.closeArray])
  | .object fields => .openObject :: ((fieldPieces fields).tail ++ [.closeObject])

/-- The pieces of items, with a comma in front of each of them. -/
def itemPieces : List Json → List Piece
  | [] => []
  | v :: items => .comma :: (pieces v ++ itemPieces items)

/-- The pieces of fields, with a comma in front of each of them. -/
def fieldPieces : List (Option Text × Json) → List Piece
  | [] => []
  | (name, v) :: fields => .comma :: .string name :: .colon :: (pieces v ++ fieldPieces fields)

end

theorem itemPieces_append (items others : List Json) :
    itemPieces (items ++ others) = itemPieces items ++ itemPieces others := by
  induction items with
  | nil => rfl
  | cons v items ih => simp [itemPieces, ih]

theorem fieldPieces_append (fields others : List Field) :
    fieldPieces (fields ++ others) = fieldPieces fields ++ fieldPieces others := by
  induction fields with
  | nil => rfl
  | cons f fields ih =>
    obtain ⟨name, v⟩ := f
    simp [fieldPieces, ih]

/-- The pieces in front of the next item or field: no comma goes first, and one goes last. -/
def beforeNext (ps : List Piece) : List Piece :=
  (ps ++ [Piece.comma]).tail

theorem beforeNext_nil : beforeNext [] = [] := rfl

theorem tail_append_comma (ps qs : List Piece) :
    (ps ++ .comma :: qs).tail = beforeNext ps ++ qs := by
  cases ps with
  | nil => rfl
  | cons p ps => simp [beforeNext]

theorem beforeNext_append_comma (ps qs : List Piece) :
    beforeNext (ps ++ .comma :: qs) = beforeNext ps ++ (qs ++ [.comma]) := by
  rw [beforeNext, List.append_assoc, List.cons_append, tail_append_comma]

namespace Reader

/-! ### What has been read -/

/-- The pieces of what is open in a frame, up to the value that is being read. -/
def Frame.written : Frame → List Piece
  | .array items => .openArray :: beforeNext (itemPieces items.reverse)
  | .object fields name =>
    .openObject :: (beforeNext (fieldPieces fields.reverse) ++ [.string name, .colon])

def writtenAround : List Frame → List Piece
  | [] => []
  | f :: frames => writtenAround frames ++ f.written

/-- The pieces that have been read in a state. -/
def State.written : State → List Piece
  | .value frames => writtenAround frames
  | .firstItem frames => writtenAround frames ++ [.openArray]
  | .firstName frames => writtenAround frames ++ [.openObject]
  | .name fields frames =>
    writtenAround frames ++ .openObject :: beforeNext (fieldPieces fields.reverse)
  | .colon fields field frames =>
    writtenAround frames ++
      .openObject :: (beforeNext (fieldPieces fields.reverse) ++ [.string field])
  | .done v frames => writtenAround frames ++ pieces v

theorem written_startValue {frames : List Frame} {p : Piece} {s : State}
    (h : startValue frames p = some s) : s.written = writtenAround frames ++ [p] := by
  cases p <;> cases h <;> rfl

/-- A step adds its piece to what has been read. -/
theorem written_step {s s' : State} {p : Piece} (h : step s p = some s') :
    s'.written = s.written ++ [p] := by
  revert h
  fun_cases step s p with
  | case1 => exact written_startValue
  -- A first item is started like a value behind a comma.
  | case3 frames p hp =>
    intro h
    rw [written_startValue h]
    simp [State.written, writtenAround, Frame.written, itemPieces, beforeNext_nil]
  | case12 =>
    intro h
    cases h
  | _ =>
    intro h
    cases h
    simp [State.written, writtenAround, Frame.written, pieces, itemPieces, itemPieces_append,
      fieldPieces, fieldPieces_append, beforeNext_nil, tail_append_comma,
      beforeNext_append_comma]

/-- The state after some pieces, if none of them is refused. -/
def run (s : State) (ps : List Piece) : Option State :=
  ps.foldlM step s

theorem run_cons (s : State) (p : Piece) (ps : List Piece) :
    run s (p :: ps) = (step s p).bind fun s' => run s' ps := rfl

theorem written_run {s s' : State} {ps : List Piece} (h : run s ps = some s') :
    s'.written = s.written ++ ps := by
  induction ps generalizing s with
  | nil =>
    cases h
    rw [List.append_nil]
  | cons p ps ih =>
    rw [run_cons] at h
    obtain ⟨u, hu, hrest⟩ := Option.bind_eq_some_iff.1 h
    rw [ih hrest, written_step hu, List.append_assoc, List.singleton_append]

/-! ### Reading what has been written -/

theorem exists_pieces (v : Json) : ∃ p ps, pieces v = p :: ps ∧ p ≠ .closeArray := by
  cases v <;> exact ⟨_, _, rfl, by simp⟩

/-- The first item of a list is read like any other value. -/
theorem run_firstItem (v : Json) (frames : List Frame) (rest : List Piece) :
    run (.firstItem frames) (pieces v ++ rest) =
      run (.value (.array [] :: frames)) (pieces v ++ rest) := by
  obtain ⟨p, ps, hps, hp⟩ := exists_pieces v
  have hstep : step (.firstItem frames) p = step (.value (.array [] :: frames)) p := by
    cases p <;> first | rfl | exact absurd rfl hp
  rw [hps, List.cons_append, run_cons, run_cons, hstep]

mutual

/-- The pieces of a document are read as the document. -/
theorem run_pieces (v : Json) (frames : List Frame) (rest : List Piece) :
    run (.value frames) (pieces v ++ rest) = run (.done v frames) rest := by
  match v with
  | .null => rfl
  | .bool b => rfl
  | .number n => rfl
  | .string s => rfl
  | .array [] => rfl
  | .array (v :: items) =>
    have hitems := run_items v [] items frames rest
    have hfirst := run_firstItem v frames (itemPieces items ++ .closeArray :: rest)
    rw [run_pieces v, hitems] at hfirst
    simpa [pieces, itemPieces, run_cons, step, startValue] using hfirst
  | .object [] => rfl
  | .object ((name, v) :: fields) =>
    have hfields := run_fields v [] name fields frames rest
    have hfirst := run_pieces v (.object [] name :: frames)
      (fieldPieces fields ++ .closeObject :: rest)
    rw [hfields] at hfirst
    simpa [pieces, fieldPieces, run_cons, step, startValue] using hfirst

theorem run_items (v : Json) (before items : List Json) (frames : List Frame) (rest : List Piece) :
    run (.done v (.array before :: frames)) (itemPieces items ++ .closeArray :: rest) =
      run (.done (.array ((v :: before).reverse ++ items)) frames) rest := by
  match items with
  | [] => simp [itemPieces, run_cons, step]
  | w :: items =>
    have hitems := run_items w (v :: before) items frames rest
    have hnext := run_pieces w (.array (v :: before) :: frames)
      (itemPieces items ++ .closeArray :: rest)
    rw [hitems] at hnext
    simpa [itemPieces, run_cons, step] using hnext

theorem run_fields (v : Json) (before : List Field) (name : Option Text)
    (fields : List (Option Text × Json)) (frames : List Frame) (rest : List Piece) :
    run (.done v (.object before name :: frames)) (fieldPieces fields ++ .closeObject :: rest) =
      run (.done (.object (((name, v) :: before).reverse ++ fields)) frames) rest := by
  match fields with
  | [] => simp [fieldPieces, run_cons, step]
  | (other, w) :: fields =>
    have hfields := run_fields w ((name, v) :: before) other fields frames rest
    have hnext := run_pieces w (.object ((name, v) :: before) other :: frames)
      (fieldPieces fields ++ .closeObject :: rest)
    rw [hfields] at hnext
    simpa [fieldPieces, run_cons, step] using hnext

end

/-- Pieces come to a document if and only if they are its own. -/
theorem run_finish_iff {ps : List Piece} {j : Json} :
    (run (.value []) ps).bind finish = some j ↔ ps = pieces j := by
  constructor
  · intro h
    obtain ⟨s, hs, hfinish⟩ := Option.bind_eq_some_iff.1 h
    have hwritten := written_run hs
    unfold finish at hfinish
    split at hfinish
    · cases hfinish
      exact hwritten.symm
    · cases hfinish
  · rintro rfl
    have hrun := run_pieces j [] []
    rw [List.append_nil] at hrun
    rw [hrun]
    rfl

end Reader

/-- A text is read as a document if and only if it is cut into the document's pieces. -/
theorem read?_eq_some_iff {t : Text} {j : Json} : read? t = some j ↔ Piece.Cuts t j.pieces := by
  have hread : read? t = (Piece.all? t).bind fun ps =>
      (Reader.run (.value []) ps).bind Reader.finish := rfl
  rw [hread, Option.bind_eq_some_iff]
  simp only [Reader.run_finish_iff, Piece.all?_eq_some_iff, exists_eq_right]

end GeneratedKeys.Json
