import GeneratedKeys.Text.Blank

/-!
# Layout

What may stand between tokens: blanks, comments from `--` to the end of the line, and comments
between `/*` and the next `*/`, which do not nest. A block comment that is never closed runs to
the end of the text.
-/
namespace GeneratedKeys.Token.Layout

inductive Place
  | blank
  | line
  | block
deriving DecidableEq, Repr

/-- Puts a character in front of the first part. -/
def push (c : Char) (p : Text × Text) : Text × Text :=
  (c :: p.1, p.2)

/-- Cuts the layout off the front of a text: the layout, and the rest. -/
def split : Place → Text → Text × Text
  | _, [] => ([], [])
  | .blank, '-' :: '-' :: t => push '-' (push '-' (split .line t))
  | .blank, '/' :: '*' :: t => push '/' (push '*' (split .block t))
  | .blank, c :: t => if Text.isBlank c then push c (split .blank t) else ([], c :: t)
  | .line, c :: t => push c (split (if c = '\n' then .blank else .line) t)
  | .block, '*' :: '/' :: t => push '*' (push '/' (split .blank t))
  | .block, c :: t => push c (split .block t)

theorem split_append (p : Place) (t : Text) : (split p t).1 ++ (split p t).2 = t := by
  fun_induction split p t <;> simp_all [push]

theorem split_length_le (p : Place) (t : Text) : (split p t).2.length ≤ t.length := by
  have h := congrArg List.length (split_append p t)
  simp only [List.length_append] at h
  omega

end GeneratedKeys.Token.Layout
