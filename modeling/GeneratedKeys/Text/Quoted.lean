import GeneratedKeys.Text.Basic

/-!
# Quoted text

A quoted text stands between two marks, and a mark inside it is written twice. Reading starts
after the opening mark and stops at the first mark that stands alone.
-/
namespace GeneratedKeys.Text.Quoted

/-- A text with every mark in it written twice. -/
def double (mark : Char) : Text → Text
  | [] => []
  | c :: t => if c = mark then mark :: mark :: double mark t else c :: double mark t

/-- A text between two marks. -/
def write (mark : Char) (content : Text) : Text :=
  mark :: (double mark content ++ [mark])

/-- Reads what follows an opening mark: the content, and what comes after the closing mark.
There is no answer if the closing mark is missing. -/
def read (mark : Char) : Text → Option (Text × Text)
  | [] => none
  | [c] => if c = mark then some ([], []) else none
  | c :: d :: t =>
    if c = mark then
      if d = mark then (read mark t).map fun p => (mark :: p.1, p.2) else some ([], d :: t)
    else (read mark (d :: t)).map fun p => (c :: p.1, p.2)

/-- What is read is what stands in front of the closing mark, written double. -/
theorem eq_of_read {mark : Char} {t content rest : Text}
    (h : read mark t = some (content, rest)) : t = double mark content ++ mark :: rest := by
  fun_induction read mark t generalizing content rest with
  | case1 => simp at h
  | case2 => simp_all [double]
  | case3 => simp at h
  | case4 t ih =>
    obtain ⟨⟨s, r⟩, hr, he⟩ := Option.map_eq_some_iff.1 h
    simp only [Prod.mk.injEq] at he
    obtain ⟨rfl, rfl⟩ := he
    simp [double, ih hr]
  | case5 c t hc => simp_all [double]
  | case6 c d t hc ih =>
    obtain ⟨⟨s, r⟩, hr, he⟩ := Option.map_eq_some_iff.1 h
    simp only [Prod.mk.injEq] at he
    obtain ⟨rfl, rfl⟩ := he
    simp [double, hc, ih hr]

end GeneratedKeys.Text.Quoted
