import GeneratedKeys.Proofs.Ending

/-!
# Texts joined by a new line

A new line ends every token and every comment to the end of a line. So the tokens of two texts with
a new line between them are those of the one and those of the other, moved to their place, unless
the first text leaves something open that a new line does not end: a quoted text or a block comment.
Those take in what follows, so a text that leaves one open cannot be joined like this to all others.
-/
namespace GeneratedKeys.Token
open Text

/-- A token that starts `n` bytes further on. -/
def moved (n : Nat) (t : Token) : Token :=
  ⟨t.kind, t.raw, n + t.start⟩

@[simp] theorem kind_moved (n : Nat) (t : Token) : (t.moved n).kind = t.kind := rfl

@[simp] theorem raw_moved (n : Nat) (t : Token) : (t.moved n).raw = t.raw := rfl

@[simp] theorem span_moved (n : Nat) (t : Token) :
    (t.moved n).span = ⟨n + t.span.start, n + t.span.stop⟩ := by
  simp [span, stop, moved, Nat.add_assoc]

variable {a : Text} {n : Nat}

namespace Cursor

/-- The offset at which reading starts is where the tokens are counted from. -/
theorem lexemes_moved (a : Text) (n m : Nat) :
    lexemes ⟨a, n + m⟩ = (lexemes ⟨a, m⟩).map (moved n) := by
  induction a using endPlace.induct generalizing m with
  | case1 a h => rw [lexemes_nil h, lexemes_nil h, List.map_nil]
  | case2 a d t h ih =>
    rw [lexemes_cons h, lexemes_cons h, List.map_cons, ← ih]
    simp only [moved, Nat.add_assoc]

/-- A new line ends all layout but a block comment. -/
theorem lexemesIn_newline {p : Layout.Place} (hp : p ≠ .block) (b : Text) (n : Nat) :
    lexemesIn p ⟨'\n' :: b, n⟩ = lexemes ⟨b, n + 1⟩ := by
  have hsplit : Layout.split p ('\n' :: b) = Layout.push '\n' (Layout.split .blank b) := by
    cases p with
    | blank =>
      rw [Layout.split, if_pos (by decide)]
      · exact fun _ h => absurd h (by decide)
      · exact fun _ h => absurd h (by decide)
    | line => rw [Layout.split, if_pos rfl]
    | block => exact absurd rfl hp
  rw [← lexemesIn_blank ⟨b, n + 1⟩, lexemesIn, lexemesIn, hsplit]
  simp only [Layout.push, size_cons, Nat.add_assoc]
  rfl

end Cursor

/-- A quoted text that is never closed reaches to the end. -/
theorem stop_of_isOpen {u : Token} (hu : u ∈ Cursor.lexemes ⟨a, n⟩) (ho : u.kind.isOpen = true) :
    u.stop = n + a.size := by
  obtain ⟨before, c, rest, rfl, rfl⟩ := Cursor.exists_take_of_mem_lexemes hu
  have hraw := take_append c rest
  rw [(take_open breaks_newline ho).1, List.append_nil] at hraw
  simp only [stop, hraw, size_append, Nat.add_assoc]

/-- Nothing is open at the end of a text that a new line would not end. -/
structure EndsClosed (a : Text) : Prop where
  quoted : AllClosed (lexemes a)
  comment : ¬ EndsOpen a

theorem lexemes_newline (ha : AllClosed (lexemes a)) (b : Text) :
    lexemes (a ++ '\n' :: b) =
      lexemes a ++ Cursor.lexemesIn (endPlace a) ⟨'\n' :: b, a.size⟩ := by
  rw [← Nat.zero_add a.size]
  exact Cursor.lexemes_append breaks_newline b ha

/-- The tokens of two texts that are joined by a new line, without the token at the end of the
first. -/
def joined (a b : Text) : List Token :=
  (tokens a).dropLast ++ (tokens b).map (moved (a.size + 1))

theorem joined_eq (a b : Text) :
    joined a b = lexemes a ++ Cursor.lexemes ⟨b, a.size + 1⟩ ++ [atEnd (a ++ '\n' :: b)] := by
  have hmoved : (lexemes b).map (moved (a.size + 1)) = Cursor.lexemes ⟨b, a.size + 1⟩ :=
    (Cursor.lexemes_moved b (a.size + 1) 0).symm
  have hend : (atEnd b).moved (a.size + 1) = atEnd (a ++ '\n' :: b) := by
    simp only [atEnd, moved, size_append, size_cons, Nat.add_assoc]
    rfl
  rw [joined, tokens, List.dropLast_concat, tokens, List.map_append, hmoved, List.map_singleton,
    hend, List.append_assoc]

theorem tokens_newline (ha : EndsClosed a) (b : Text) : tokens (a ++ '\n' :: b) = joined a b := by
  have hplace : endPlace a ≠ .block := mt (endPlace_eq_block_iff a).1 ha.comment
  rw [tokens, lexemes_newline ha.quoted, Cursor.lexemesIn_newline hplace, joined_eq]

/-- A text whose tokens a new line does not change leaves no quoted text open. -/
theorem allClosed_of_joined (h : tokens (a ++ ['\n']) = joined a []) : AllClosed (lexemes a) := by
  rw [joined_eq, tokens, Cursor.lexemes_nil rfl, List.append_nil] at h
  have hsame : lexemes (a ++ ['\n']) = lexemes a := List.append_cancel_right h
  apply Cursor.allClosed_of_append breaks_newline
  intro u hu
  apply Bool.eq_false_iff.2
  intro ho
  have hstop := stop_of_isOpen hu ho
  have hmem : u ∈ lexemes a := hsame ▸ hu
  have hle := Cursor.stop_le_of_mem_lexemes hmem
  have hpos := ('\n').utf8Size_pos
  rw [hstop, size_append, size_cons] at hle
  omega

/-- A text that a word can be joined to leaves no block comment open. -/
theorem not_endsOpen_of_joined (ha : AllClosed (lexemes a))
    (h : tokens (a ++ ['\n', 'x']) = joined a ['x']) : ¬ EndsOpen a := by
  intro hopen
  have hswallowed : Cursor.lexemesIn .block ⟨['\n', 'x'], a.size⟩ = [] := Cursor.lexemes_nil rfl
  have hword : (Cursor.lexemes ⟨['x'], a.size + 1⟩).map Token.kind = [.identifier ['x']] := by
    rw [Cursor.kinds_lexemes _ _ 0]
    decide +kernel
  rw [joined_eq, tokens, lexemes_newline ha, (endPlace_eq_block_iff a).2 hopen, hswallowed] at h
  have hnone := List.append_cancel_left (List.append_cancel_right h)
  rw [← hnone] at hword
  cases hword

/-- The tokens of a text and of any other behind a new line are those of the two texts, the second
ones moved to their place, malformed ones included, if the first text leaves no quoted text and no
block comment open, and only then. -/
theorem tokens_newline_iff (a : Text) :
    (∀ b, tokens (a ++ '\n' :: b) = (tokens a).dropLast ++ (tokens b).map (moved (a.size + 1))) ↔
      EndsClosed a := by
  constructor
  · intro h
    have hquoted := allClosed_of_joined (h [])
    exact ⟨hquoted, not_endsOpen_of_joined hquoted (h ['x'])⟩
  · exact tokens_newline

/-- A number that waits for its exponent, a sign that is no token and a comment are ended. -/
example : tokens "1e ! --x\n+5".toList =
    (tokens "1e ! --x".toList).dropLast ++ (tokens "+5".toList).map (moved 9) := by
  decide +kernel

end GeneratedKeys.Token
