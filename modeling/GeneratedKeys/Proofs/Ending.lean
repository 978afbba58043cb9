import GeneratedKeys.Proofs.Clause
import GeneratedKeys.Proofs.Covering
import GeneratedKeys.Proofs.Printing

/-!
# How a text ends

Behind the last token of a text there is layout, and its last comment may lack an end. A comment to
the end of a line is ended by any line that follows. A block comment that is not closed goes on, and
takes in what is added to the text.
-/
namespace GeneratedKeys.Token
open Text

namespace Layout

/-! ### Where layout ends -/

theorem final_blank {c : Char} (hc : isBlank c = true) (g : Text) :
    final .blank (c :: g) = final .blank g := by
  have hsign := (of_isBlank hc).2.2
  simp only [List.mem_cons, not_or] at hsign
  rw [final]
  · exact fun _ hdash => absurd hdash hsign.2.2.1
  · exact fun _ hslash => absurd hslash hsign.2.2.2.2.1

theorem final_openLine {body : Text} (h : '\n' ∉ body) : final .line body = .line := by
  induction body with
  | nil => rfl
  | cons c body ih =>
    have hc : c ≠ '\n' := Ne.symm (List.ne_of_not_mem_cons h)
    rw [final, if_neg hc, ih (List.not_mem_of_not_mem_cons h)]

theorem final_line {body : Text} (h : '\n' ∉ body) (g : Text) :
    final .line (body ++ '\n' :: g) = final .blank g := by
  rw [final_append (by decide), final_openLine h, final, if_pos rfl]

theorem final_openBlock {body : Text} (h : ¬ ['*', '/'] <:+: body) :
    final .block body = .block := by
  induction body with
  | nil => rfl
  | cons c body ih =>
    rw [final, ih fun hi => h (List.infix_cons hi)]
    exact not_close h

theorem split_openBlock {body : Text} (h : ¬ ['*', '/'] <:+: body) :
    split .block body = (body, []) := by
  induction body with
  | nil => rfl
  | cons c body ih =>
    rw [split, ih fun hi => h (List.infix_cons hi)]
    · rfl
    · exact not_close h

theorem final_block {body : Text} (h : ¬ ['*', '/'] <:+: body) (g : Text) :
    final .block (body ++ '*' :: '/' :: g) = final .blank g := by
  induction body with
  | nil => rfl
  | cons c body ih =>
    rw [List.cons_append, final, ih fun hi => h (List.infix_cons hi)]
    exact not_close_append h g

/-- Closed layout leaves the place where it ends to what is behind it. -/
theorem IsFiller.final_append {g : Text} (h : IsFiller g) (w : Text) :
    final .blank (g ++ w) = final .blank w := by
  induction h with
  | nil => rfl
  | @blank c g hc _ ih => rw [List.cons_append, final_blank hc, ih]
  | @line body g hbody _ ih =>
    have hline := final_line hbody (g ++ w)
    simp only [List.cons_append, List.append_assoc, final, hline, ih]
  | @block body g hbody _ ih =>
    have hblock := final_block hbody (g ++ w)
    simp only [List.cons_append, List.append_assoc, final, hblock, ih]

/-- Layout ends in a block comment if the last comment in it is one that is not closed. -/
theorem exists_openBlock {g rest : Text} (h : IsLayout g rest) (hplace : final .blank g = .block) :
    ∃ gap body, g = gap ++ '/' :: '*' :: body ∧ IsFiller gap ∧ ¬ ['*', '/'] <:+: body := by
  induction h with
  | nil => cases hplace
  | @blank c g rest hc _ ih =>
    rw [final_blank hc] at hplace
    obtain ⟨gap, body, rfl, hgap, hbody⟩ := ih hplace
    exact ⟨c :: gap, body, rfl, .blank hc hgap, hbody⟩
  | @line line g rest hline _ ih =>
    rw [final, final_line hline] at hplace
    obtain ⟨gap, body, rfl, hgap, hbody⟩ := ih hplace
    exact ⟨'-' :: '-' :: (line ++ '\n' :: gap), body, by simp, .line hline hgap, hbody⟩
  | @lastLine line hline =>
    rw [final, final_openLine hline] at hplace
    cases hplace
  | @block block g rest hblock _ ih =>
    rw [final, final_block hblock] at hplace
    obtain ⟨gap, body, rfl, hgap, hbody⟩ := ih hplace
    exact ⟨'/' :: '*' :: (block ++ '*' :: '/' :: gap), body, by simp, .block hblock hgap, hbody⟩
  | @openBlock body hbody => exact ⟨[], body, rfl, .nil, hbody⟩

end Layout

/-! ### Behind the last token -/

/-- A block comment behind the last token of a text, and behind closed layout, is not closed. -/
def EndsOpen (a : Text) : Prop :=
  ∃ front gap body, a = front ++ (gap ++ '/' :: '*' :: body) ∧
    front.size = ((lexemes a).map stop).getLastD 0 ∧
    Layout.IsFiller gap ∧ ¬ ['*', '/'] <:+: body

variable {a : Text} {n : Nat}

/-- Texts that are put together from pieces of the same size have the same pieces. -/
theorem append_inj_of_size {b c d : Text} (h : a ++ b = c ++ d) (hs : a.size = c.size) :
    b = d := by
  have hdrop := dropSize?_size_append a b
  rw [h, hs, dropSize?_size_append] at hdrop
  exact (Option.some.inj hdrop).symm

/-- A text is cut behind its last token, where nothing is left but layout. -/
theorem Cursor.cut_end (a : Text) (n : Nat) :
    ∃ front rest, a = front ++ rest ∧
      ((lexemes ⟨a, n⟩).map stop).getLastD n = n + front.size ∧
      endPlace a = endPlace rest ∧ (Layout.split .blank rest).2 = [] := by
  induction a using endPlace.induct generalizing n with
  | case1 a h => exact ⟨[], a, rfl, by rw [lexemes_nil h]; rfl, rfl, h⟩
  | case2 a d t h ih =>
    have hcut : a = (Layout.split .blank a).1 ++ ((take d t).1.raw ++ (take d t).2) := by
      rw [take_append, ← h, Layout.split_append]
    obtain ⟨front, rest, hfront, hstop, hplace, hrest⟩ :=
      ih (n + (Layout.split .blank a).1.size + (take d t).1.raw.size)
    refine ⟨(Layout.split .blank a).1 ++ ((take d t).1.raw ++ front), rest, ?_, ?_, ?_, hrest⟩
    · rw [hfront] at hcut
      simpa using hcut
    · rw [lexemes_cons h, List.map_cons, List.getLastD_cons]
      refine hstop.trans ?_
      simp only [size_append, Nat.add_assoc]
    · rw [endPlace_cons h, hplace]

/-- A text ends in a block comment if and only if one is not closed. -/
theorem endPlace_eq_block_iff (a : Text) : endPlace a = .block ↔ EndsOpen a := by
  obtain ⟨front, rest, hcut, hstop, hplace, hrest⟩ := Cursor.cut_end a 0
  rw [Nat.zero_add] at hstop
  rw [hplace, endPlace_nil hrest]
  constructor
  · intro hblock
    have hlayout := Layout.isLayout_split rest
    have hall := Layout.split_append .blank rest
    rw [hrest, List.append_nil] at hall
    rw [hall] at hlayout
    obtain ⟨gap, body, rfl, hgap, hbody⟩ := Layout.exists_openBlock hlayout hblock
    exact ⟨front, gap, body, hcut, hstop.symm, hgap, hbody⟩
  · intro hopen
    obtain ⟨front', gap, body, hcut', hsize, hgap, hbody⟩ := hopen
    have hrest' := append_inj_of_size (hcut'.symm.trans hcut) (hsize.trans hstop)
    rw [← hrest', hgap.final_append]
    exact Layout.final_openBlock hbody

example : endPlace "DELETE FROM t /* all".toList = .block := by
  decide +kernel

end GeneratedKeys.Token
