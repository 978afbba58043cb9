import GeneratedKeys.Proofs.Lexing

/-!
# Tokens cover the text

Taking tokens off a text, one call after the other, comes to an end and loses nothing: every piece
of the text is a token or layout between tokens. Layout is told here by what it consists of, and not
by how it is cut off.
-/
namespace GeneratedKeys

namespace Token.Layout

/-- Layout in front of a rest: blanks, comments to the end of a line and comments to the first mark
that closes them. A comment that is not ended has no rest behind it. -/
inductive IsLayout : Text → Text → Prop
  | nil (rest : Text) : IsLayout [] rest
  | blank {c : Char} {g rest : Text} : Text.isBlank c = true → IsLayout g rest →
      IsLayout (c :: g) rest
  | line {body g rest : Text} : '\n' ∉ body → IsLayout g rest →
      IsLayout ('-' :: '-' :: (body ++ '\n' :: g)) rest
  | lastLine {body : Text} : '\n' ∉ body → IsLayout ('-' :: '-' :: body) []
  | block {body g rest : Text} : ¬ ['*', '/'] <:+: body → IsLayout g rest →
      IsLayout ('/' :: '*' :: (body ++ '*' :: '/' :: g)) rest
  | openBlock {body : Text} : ¬ ['*', '/'] <:+: body → IsLayout ('/' :: '*' :: body) []

/-- Layout that goes on from a place in it. -/
def GoesOn : Place → Text → Text → Prop
  | .blank, g, rest => IsLayout g rest
  | .line, g, rest => ('\n' ∉ g ∧ rest = []) ∨
      ∃ body h, g = body ++ '\n' :: h ∧ '\n' ∉ body ∧ IsLayout h rest
  | .block, g, rest => (¬ ['*', '/'] <:+: g ∧ rest = []) ∨
      ∃ body h, g = body ++ '*' :: '/' :: h ∧ ¬ ['*', '/'] <:+: body ∧ IsLayout h rest

theorem isLayout_of_line {g rest : Text} (h : GoesOn .line g rest) :
    IsLayout ('-' :: '-' :: g) rest := by
  rcases h with ⟨hg, rfl⟩ | ⟨body, h, rfl, hb, hl⟩
  · exact .lastLine hg
  · exact .line hb hl

theorem isLayout_of_block {g rest : Text} (h : GoesOn .block g rest) :
    IsLayout ('/' :: '*' :: g) rest := by
  rcases h with ⟨hg, rfl⟩ | ⟨body, h, rfl, hb, hl⟩
  · exact .openBlock hg
  · exact .block hb hl

theorem goesOn_line_cons {c : Char} (hc : c ≠ '\n') {g rest : Text} (h : GoesOn .line g rest) :
    GoesOn .line (c :: g) rest := by
  rcases h with ⟨hg, rfl⟩ | ⟨body, h, rfl, hb, hl⟩
  · exact .inl ⟨by simp [hg, Ne.symm hc], rfl⟩
  · exact .inr ⟨c :: body, h, rfl, by simp [hb, Ne.symm hc], hl⟩

/-- A character goes on with a block comment if it does not close it with the next one. -/
theorem goesOn_block_cons {c : Char} {g rest : Text}
    (hc : ∀ t, c = '*' → g ++ rest = '/' :: t → False) (h : GoesOn .block g rest) :
    GoesOn .block (c :: g) rest := by
  have hcons : ∀ body u, body ++ u = g ++ rest → ¬ ['*', '/'] <:+: body →
      ¬ ['*', '/'] <:+: c :: body := by
    intro body u hu hb hi
    -- A closing mark could begin with the new character, but then the next one would end it.
    rcases List.infix_cons_iff.1 hi with hp | hi
    · obtain ⟨v, hv⟩ := hp
      obtain ⟨hstar, hbody⟩ := List.cons.inj hv
      apply hc (v ++ u) hstar.symm
      rw [← hu, ← hbody]
      rfl
    · exact hb hi
  rcases h with ⟨hg, rfl⟩ | ⟨body, h, rfl, hb, hl⟩
  · exact .inl ⟨hcons g [] rfl hg, rfl⟩
  · exact .inr ⟨c :: body, h, rfl, hcons body ('*' :: '/' :: h ++ rest) (by simp) hb, hl⟩

theorem goesOn_split (p : Place) (t : Text) : GoesOn p (split p t).1 (split p t).2 := by
  fun_induction split p t with
  | case1 p =>
    cases p with
    | blank => exact .nil []
    | line => exact .inl ⟨by simp, rfl⟩
    | block => exact .inl ⟨by simp, rfl⟩
  | case2 t ih => exact isLayout_of_line ih
  | case3 t ih => exact isLayout_of_block ih
  | case4 c t hline hblock hc ih => exact .blank hc ih
  | case5 c t hline hblock hc => exact .nil (c :: t)
  | case6 c t ih =>
    by_cases hc : c = '\n'
    · simp only [hc, if_true] at ih ⊢
      exact .inr ⟨[], _, rfl, by simp, ih⟩
    · simp only [hc, if_false] at ih ⊢
      exact goesOn_line_cons hc ih
  | case7 t ih => exact .inr ⟨[], _, rfl, by simp, ih⟩
  | case8 c t hclose ih =>
    have hcut := split_append .block t
    have hopen : ∀ u, c = '*' → (split .block t).1 ++ (split .block t).2 = '/' :: u → False := by
      rw [hcut]
      exact hclose
    exact goesOn_block_cons hopen ih

/-- What is cut off the front of a text is layout. -/
theorem isLayout_split (t : Text) : IsLayout (split .blank t).1 (split .blank t).2 :=
  goesOn_split .blank t

end Token.Layout

namespace Token
open Text

/-! ### One call -/

namespace Cursor

/-- A call takes layout and a token off the text, and stands behind the token. -/
theorem next_cut (c : Cursor) :
    ∃ gap, c.rest = gap ++ (c.next.1.raw ++ c.next.2.rest) ∧
      Layout.IsLayout gap (c.next.1.raw ++ c.next.2.rest) ∧
      c.next.1.start = c.offset + gap.size ∧ c.next.2.offset = c.next.1.stop := by
  have happ := Layout.split_append .blank c.rest
  have hlay := Layout.isLayout_split c.rest
  refine ⟨(Layout.split .blank c.rest).1, ?_⟩
  fun_cases next c with
  | case1 cut start hrest =>
    change (Layout.split .blank c.rest).2 = [] at hrest
    rw [hrest] at happ hlay
    exact ⟨happ.symm, hlay, rfl, rfl⟩
  | case2 cut start d t hrest taken =>
    change (Layout.split .blank c.rest).2 = d :: t at hrest
    rw [hrest, ← take_append d t] at happ hlay
    exact ⟨happ.symm, hlay, rfl, rfl⟩

/-- The token of the end is empty, and nothing is left behind it. -/
theorem next_eq_eof {c : Cursor} (h : c.next.1.kind = .eof) :
    c.next.1.raw = [] ∧ c.next.2.rest = [] := by
  revert h
  fun_cases next c with
  | case1 => exact fun _ => ⟨rfl, rfl⟩
  | case2 cut start d t => exact fun h => absurd h (take_kind_ne_eof d t)

theorem next_raw_ne_nil {c : Cursor} (h : c.next.1.kind ≠ .eof) : c.next.1.raw ≠ [] := by
  revert h
  fun_cases next c with
  | case1 => exact fun h => absurd rfl h
  | case2 cut start d t => exact fun _ => take_raw_ne_nil d t

theorem lexemes_of_eof {c : Cursor} (h : c.next.1.kind = .eof) : lexemes c = [] := by
  rw [lexemes]
  simp [h]

theorem lexemes_of_ne_eof {c : Cursor} (h : c.next.1.kind ≠ .eof) :
    lexemes c = c.next.1 :: lexemes c.next.2 := by
  rw [lexemes]
  simp [h]

theorem lexemes_eq_nil_iff (c : Cursor) : lexemes c = [] ↔ c.next.1.kind = .eof := by
  by_cases h : c.next.1.kind = .eof
  · simp [lexemes_of_eof h, h]
  · simp [lexemes_of_ne_eof h, h]

theorem lexemes_next (c : Cursor) : lexemes c.next.2 = (lexemes c).tail := by
  by_cases h : c.next.1.kind = .eof
  · have hrest : c.next.2 = ⟨[], c.next.2.offset⟩ := by rw [← (next_eq_eof h).2]
    rw [hrest, lexemes_nil rfl, lexemes_of_eof h]
    rfl
  · rw [lexemes_of_ne_eof h, List.tail_cons]

theorem length_lexemes_le (c : Cursor) : (lexemes c).length ≤ c.rest.length := by
  fun_induction lexemes c with
  | case1 => simp
  | case2 c step h ih =>
    have hlt : step.2.rest.length < c.rest.length := next_length_lt h
    simp only [List.length_cons]
    omega

/-- The place after some calls. -/
def after : Nat → Cursor → Cursor
  | 0, c => c
  | k + 1, c => (after k c).next.2

theorem lexemes_after (k : Nat) (c : Cursor) : lexemes (after k c) = (lexemes c).drop k := by
  induction k with
  | zero => rfl
  | succ k ih => rw [after, lexemes_next, ih, List.tail_drop]

/-- A cursor stands in a text at its offset. -/
def In (t : Text) (c : Cursor) : Prop :=
  ∃ before, t = before ++ c.rest ∧ c.offset = before.size

variable {t : Text} {c : Cursor}

theorem In.next (h : In t c) : In t c.next.2 := by
  obtain ⟨before, ht, ho⟩ := h
  obtain ⟨gap, hcut, -, hstart, hstop⟩ := next_cut c
  refine ⟨before ++ gap ++ c.next.1.raw, ?_, ?_⟩
  · rw [ht, hcut]
    simp
  · simp only [hstop, stop, hstart, ho, size_append]

theorem In.after (h : In t c) (k : Nat) : In t (c.after k) := by
  induction k with
  | zero => exact h
  | succ k ih => exact ih.next

theorem In.offset_le (h : In t c) : c.offset ≤ t.size := by
  obtain ⟨before, rfl, ho⟩ := h
  rw [ho, size_append]
  omega

/-- The text around the next token: what is in front of the cursor, the layout, and the rest. -/
theorem In.cut (h : In t c) :
    ∃ before gap, t = before ++ (gap ++ (c.next.1.raw ++ c.next.2.rest)) ∧
      Layout.IsLayout gap (c.next.1.raw ++ c.next.2.rest) ∧
      c.offset = before.size ∧ c.next.1.start = before.size + gap.size := by
  obtain ⟨before, ht, ho⟩ := h
  obtain ⟨gap, hcut, hlay, hstart, -⟩ := next_cut c
  exact ⟨before, gap, by rw [ht, hcut], hlay, ho, by rw [hstart, ho]⟩

theorem In.slice_next (h : In t c) : c.next.1.span.slice? t = some c.next.1.raw := by
  obtain ⟨before, gap, ht, -, -, hstart⟩ := h.cut
  rw [span, stop, hstart, ← size_append, ht, ← List.append_assoc]
  exact Span.slice?_append _ _ _

theorem In.slice_gap (h : In t c) :
    ∃ gap rest, Span.slice? ⟨c.offset, c.next.1.start⟩ t = some gap ∧
      dropSize? c.next.1.start t = some rest ∧ Layout.IsLayout gap rest := by
  obtain ⟨before, gap, ht, hlay, ho, hstart⟩ := h.cut
  refine ⟨gap, _, ?_, ?_, hlay⟩
  · rw [ho, hstart, ht]
    exact Span.slice?_append _ _ _
  · rw [hstart, ← size_append, ht, ← List.append_assoc]
    exact dropSize?_size_append _ _

theorem In.next_eq_atEnd (h : In t c) (he : c.next.1.kind = .eof) : c.next.1 = atEnd t := by
  obtain ⟨hraw, hrest⟩ := next_eq_eof he
  obtain ⟨before, gap, ht, -, -, hstart⟩ := h.cut
  have hsize : c.next.1.start = t.size := by
    rw [hstart, ht, hraw, hrest]
    simp
  rw [atEnd, ← hsize, ← he, ← hraw]

end Cursor

/-! ### Calls on a text -/

/-- What a call on a text answers, after some calls before it. -/
def call (t : Text) (k : Nat) : Token :=
  ((Cursor.ofText t).after k).next.1

theorem in_after (t : Text) (k : Nat) : ((Cursor.ofText t).after k).In t := by
  have hstart : (Cursor.ofText t).In t := ⟨[], rfl, rfl⟩
  exact hstart.after k

theorem call_eq_eof_iff (t : Text) (k : Nat) :
    (call t k).kind = .eof ↔ (lexemes t).length ≤ k := by
  rw [call, ← Cursor.lexemes_eq_nil_iff, Cursor.lexemes_after, List.drop_eq_nil_iff, lexemes]

theorem call_ne_eof {t : Text} {k : Nat} (h : k < (lexemes t).length) :
    (call t k).kind ≠ .eof := by
  rw [Ne, call_eq_eof_iff]
  omega

theorem call_eq_atEnd {t : Text} {k : Nat} (h : (lexemes t).length ≤ k) : call t k = atEnd t :=
  (in_after t k).next_eq_atEnd ((call_eq_eof_iff t k).2 h)

/-- Where the token before a call ends. -/
def endBefore (token : Nat → Token) : Nat → Nat
  | 0 => 0
  | k + 1 => (token k).stop

theorem offset_after (t : Text) (k : Nat) :
    ((Cursor.ofText t).after k).offset = endBefore (call t) k := by
  cases k with
  | zero => rfl
  | succ k =>
    obtain ⟨-, -, -, -, hstop⟩ := Cursor.next_cut ((Cursor.ofText t).after k)
    exact hstop

theorem endBefore_le_start (t : Text) (k : Nat) : endBefore (call t) k ≤ (call t k).start := by
  obtain ⟨gap, -, -, hstart, -⟩ := Cursor.next_cut ((Cursor.ofText t).after k)
  rw [call, hstart, ← offset_after]
  omega

theorem stop_le_start {t : Text} {i j : Nat} (h : i < j) : (call t i).stop ≤ (call t j).start := by
  induction h with
  | refl => exact endBefore_le_start t (i + 1)
  | @step j _ ih =>
    have hnext : (call t j).stop ≤ (call t (j + 1)).start := endBefore_le_start t (j + 1)
    have hlen : (call t j).start ≤ (call t j).stop := Nat.le_add_right _ _
    exact Nat.le_trans ih (Nat.le_trans hlen hnext)

/-- A sequence of tokens covers a text with the first `n` of them: the others are one empty token
at its end, and outside of the tokens there is nothing but layout. -/
structure Covers (t : Text) (n : Nat) (token : Nat → Token) : Prop where
  eof_iff (k : Nat) : (token k).kind = .eof ↔ n ≤ k
  eq_atEnd (k : Nat) : n ≤ k → token k = atEnd t
  isEmpty (k : Nat) : k < n → (token k).span.isEmpty = false
  slice (k : Nat) : (token k).span.slice? t = some (token k).raw
  stop_le (k : Nat) : (token k).stop ≤ t.size
  ordered (i j : Nat) : i < j → (token i).stop ≤ (token j).start
  layout (k : Nat) : ∃ gap rest,
    Span.slice? ⟨endBefore token k, (token k).start⟩ t = some gap ∧
      dropSize? (token k).start t = some rest ∧ Layout.IsLayout gap rest

/-- The calls on a text cover it, with at most one token for each of its bytes, also where some of
the tokens are malformed. -/
theorem calls_cover (t : Text) : ∃ n, n ≤ t.size ∧ Covers t n (call t) := by
  have hcount : (lexemes t).length ≤ t.size :=
    Nat.le_trans (Cursor.length_lexemes_le (Cursor.ofText t)) (length_le_size t)
  refine ⟨(lexemes t).length, hcount, ?_⟩
  constructor
  case eof_iff => exact call_eq_eof_iff t
  case eq_atEnd => exact fun k => call_eq_atEnd
  case isEmpty =>
    intro k hk
    have hraw : 0 < (call t k).raw.length :=
      List.length_pos_iff.2 (Cursor.next_raw_ne_nil (call_ne_eof hk))
    have hsize := length_le_size (call t k).raw
    simp only [Span.isEmpty, span, stop, beq_eq_false_iff_ne]
    omega
  case slice =>
    intro k
    exact (in_after t k).slice_next
  case stop_le =>
    intro k
    have hle := (in_after t (k + 1)).offset_le
    rwa [offset_after] at hle
  case ordered => exact fun i j => stop_le_start
  case layout =>
    intro k
    have hgap := (in_after t k).slice_gap
    rwa [offset_after] at hgap

example : (lexemes "a/*/ b */--\n!'".toList).map Token.span = [⟨0, 1⟩, ⟨12, 13⟩, ⟨13, 14⟩] := by
  decide +kernel

/-- The tokens of a text are what the calls answer, up to the end and with it. -/
theorem tokens_eq_calls (t : Text) :
    tokens t = (List.range ((lexemes t).length + 1)).map (call t) := by
  apply List.ext_getElem
  · simp [tokens]
  · intro k hk _
    rw [List.getElem_map, List.getElem_range]
    by_cases hlt : k < (lexemes t).length
    · have hdrop := Cursor.lexemes_after k (Cursor.ofText t)
      have hcut := List.drop_eq_getElem_cons hlt
      rw [Cursor.lexemes_of_ne_eof (call_ne_eof hlt)] at hdrop
      simp only [tokens, List.getElem_append_left hlt]
      exact (List.cons.inj (hcut.symm.trans hdrop.symm)).1
    · have hle := Nat.le_of_not_lt hlt
      simp [tokens, List.getElem_append_right hle, call_eq_atEnd hle]

end Token

end GeneratedKeys
