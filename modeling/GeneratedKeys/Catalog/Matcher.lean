import GeneratedKeys.Pattern

/-!
# Matching a name with a pattern

A catalog matches a name with a pattern as it is written, character by character. A place is told
by how many characters of the name and of the pattern are behind it. What has been found out for a
place is kept in a memory and is not worked out again; the memory is given by its two operations, so
that the same matching can be done with a memory that keeps more.
-/
namespace GeneratedKeys.Catalog

/-- The numbers of characters of the name and of the pattern behind a place. -/
abbrev Place := Nat × Nat

structure Memory (m : Type → Type) where
  ask : Place → m (Option Bool)
  note : Place → Bool → m Unit

/-- A memory that is a table of answers and no more. -/
def remembering : Memory (StateM Pattern.Memo) where
  ask place := do return (← get)[place]?
  note place found := modify fun memo => memo.insert place found

variable {m : Type → Type} [Monad m]

/-- The answer that is remembered for a place, or else the one worked out now, which is noted. -/
def Memory.answer (memory : Memory m) (place : Place) (work : Unit → m Bool) : m Bool := do
  match ← memory.ask place with
  | some known => return known
  | none =>
    let found ← work ()
    memory.note place found
    return found

/-- Whether a name from its place `i` on is what the rest of a pattern from its place `j` on stands
for. A wildcard for any piece tries the pieces in the order of their lengths, and a backslash with
nothing after it stands for itself. -/
def matchFrom (memory : Memory m) (name : Text) : Text → Nat → Nat → m Bool
  | [], i, j => memory.answer (i, j) fun _ => pure (i == name.length)
  | '%' :: rest, i, j => memory.answer (i, j) fun _ =>
    (List.range' i (name.length + 1 - i)).anyM fun k => matchFrom memory name rest k (j + 1)
  | '_' :: rest, i, j => memory.answer (i, j) fun _ =>
    if i < name.length then matchFrom memory name rest (i + 1) (j + 1) else pure false
  | ['\x5c'], i, j => memory.answer (i, j) fun _ =>
    if name[i]? = some '\x5c' then matchFrom memory name [] (i + 1) (j + 1) else pure false
  | '\x5c' :: c :: rest, i, j => memory.answer (i, j) fun _ =>
    if name[i]? = some c then matchFrom memory name rest (i + 1) (j + 2) else pure false
  | c :: rest, i, j => memory.answer (i, j) fun _ =>
    if name[i]? = some c then matchFrom memory name rest (i + 1) (j + 1) else pure false

/-- Whether a name fits a written pattern, letter for letter. A backslash at the end of the
pattern stands for itself. -/
def fits (pattern name : Text) : Bool :=
  ((matchFrom remembering name pattern 0 0).run ∅).1

end GeneratedKeys.Catalog
