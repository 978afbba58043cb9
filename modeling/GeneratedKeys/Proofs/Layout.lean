import GeneratedKeys.Token.Layout

/-!
# Layout in front of more text

How the layout at the front of a text is cut off when more text follows. Two characters that open
or close a comment can be torn apart by the end of a text, so what follows must not start with the
second of such a pair.
-/
namespace GeneratedKeys.Token.Layout

/-- Where in the layout a text of layout ends. -/
def final : Place → Text → Place
  | p, [] => p
  | .blank, '-' :: '-' :: t => final .line t
  | .blank, '/' :: '*' :: t => final .block t
  | .blank, _ :: t => final .blank t
  | .line, c :: t => final (if c = '\n' then .blank else .line) t
  | .block, '*' :: '/' :: t => final .blank t
  | .block, _ :: t => final .block t

/-- A character that is not the second of a pair that opens or closes a comment. -/
def isApart (c : Char) : Bool :=
  c != '-' && c != '*' && c != '/'

/-- A pair that does not stand at the front of a text is not made by what comes behind it. -/
theorem not_pair_append {a b : Text} {c d e x : Char} (hx : x ≠ e)
    (h : ∀ t, c = d → a = e :: t → False) : ∀ t, c = d → a ++ x :: b = e :: t → False := by
  intro t hc ht
  cases a with
  | nil => exact hx (List.cons.inj ht).1
  | cons f a => exact h a hc (by rw [(List.cons.inj ht).1])

theorem final_append {x : Char} (hx : isApart x = true) (p : Place) (a b : Text) :
    final p (a ++ x :: b) = final (final p a) (x :: b) := by
  simp only [isApart, Bool.and_eq_true, bne_iff_ne] at hx
  obtain ⟨⟨hdash, hstar⟩, hslash⟩ := hx
  fun_induction final p a with
  | case1 => rfl
  | case2 t ih => simpa [final] using ih
  | case3 t ih => simpa [final] using ih
  | case4 c t hline hblock ih =>
    rw [List.cons_append, final, ih]
    · exact not_pair_append hdash hline
    · exact not_pair_append hstar hblock
  | case5 c t ih => simpa [final] using ih
  | case6 t ih => simpa [final] using ih
  | case7 c t hclose ih =>
    rw [List.cons_append, final, ih]
    exact not_pair_append hslash hclose

/-- Layout that is followed by more text ends in a place, and the rest is cut from there. -/
theorem split_append_of_nil {x : Char} (hx : isApart x = true) {p : Place} {a : Text}
    (h : (split p a).2 = []) (b : Text) :
    split p (a ++ x :: b) =
      (a ++ (split (final p a) (x :: b)).1, (split (final p a) (x :: b)).2) := by
  simp only [isApart, Bool.and_eq_true, bne_iff_ne] at hx
  obtain ⟨⟨hdash, hstar⟩, hslash⟩ := hx
  fun_induction split p a with
  | case1 => simp [final]
  | case2 t ih => simp [split, final, push, ih h]
  | case3 t ih => simp [split, final, push, ih h]
  | case4 c t hline hblock hc ih =>
    rw [List.cons_append, split, if_pos hc, ih h, final]
    · rfl
    · exact hline
    · exact hblock
    · exact not_pair_append hdash hline
    · exact not_pair_append hstar hblock
  | case5 c t hline hblock hc => simp at h
  | case6 c t ih => simp [split, final, push, ih h]
  | case7 t ih => simp [split, final, push, ih h]
  | case8 c t hclose ih =>
    rw [List.cons_append, split, ih h, final]
    · rfl
    · exact hclose
    · exact not_pair_append hslash hclose

/-- What comes behind the rest of a text does not change how its layout is cut off. -/
theorem split_append_of_cons {x : Char} (hx : isApart x = true) {p : Place} {a r : Text} {d : Char}
    (h : (split p a).2 = d :: r) (b : Text) :
    split p (a ++ x :: b) = ((split p a).1, d :: (r ++ x :: b)) := by
  simp only [isApart, Bool.and_eq_true, bne_iff_ne] at hx
  obtain ⟨⟨hdash, hstar⟩, hslash⟩ := hx
  fun_induction split p a with
  | case1 => simp at h
  | case2 t ih => simp [split, push, ih h]
  | case3 t ih => simp [split, push, ih h]
  | case4 c t hline hblock hc ih =>
    rw [List.cons_append, split, if_pos hc, ih h]
    · rfl
    · exact not_pair_append hdash hline
    · exact not_pair_append hstar hblock
  | case5 c t hline hblock hc =>
    obtain ⟨rfl, rfl⟩ := List.cons.inj h
    rw [List.cons_append, split, if_neg hc]
    · exact not_pair_append hdash hline
    · exact not_pair_append hstar hblock
  | case6 c t ih => simp [split, push, ih h]
  | case7 t ih => simp [split, push, ih h]
  | case8 c t hclose ih =>
    rw [List.cons_append, split, ih h]
    · rfl
    · exact not_pair_append hslash hclose

/-- A character that neither is a blank nor opens a comment is left to the tokens. -/
theorem split_of_not_blank {c : Char} (hb : Text.isBlank c = false) (hd : c ≠ '-') (hs : c ≠ '/')
    (t : Text) : split .blank (c :: t) = ([], c :: t) := by
  rw [split, if_neg (by simp [hb])]
  · exact fun _ h => absurd h hd
  · exact fun _ h => absurd h hs

/-- No layout is left at the front of the rest. -/
theorem split_rest (p : Place) (a : Text) : split .blank (split p a).2 = ([], (split p a).2) := by
  fun_induction split p a with
  | case1 => rfl
  | case2 t ih => exact ih
  | case3 t ih => exact ih
  | case4 c t hline hblock hc ih => exact ih
  | case5 c t hline hblock hc =>
    rw [split, if_neg hc]
    · exact hline
    · exact hblock
  | case6 c t ih => exact ih
  | case7 t ih => exact ih
  | case8 c t hclose ih => exact ih

end GeneratedKeys.Token.Layout
