import GeneratedKeys.Proofs.Lexing
import GeneratedKeys.Query.Clause

/-!
# The tokens of the clause

The clause that returns columns is cut into the word RETURNING and a list of identifiers, wherever
it stands in a text. Quoted names are identifiers; names that are written as given are so if each
of them is the text of one. A semicolon at the end of a text, which gives way to the clause, is a
token of its own unless it stands in a comment.
-/
namespace GeneratedKeys

theorem Query.dropSemicolon_front (sql : Text) :
    sql = dropSemicolon sql ++ [';'] ∨
      sql = dropSemicolon sql ∧ (dropSemicolon sql).getLast? ≠ some ';' := by
  unfold dropSemicolon
  split
  · rename_i h
    obtain ⟨front, rfl⟩ := List.getLast?_eq_some_iff.1 h
    left
    simp
  · rename_i h
    exact .inr ⟨rfl, h⟩

namespace Token
open Text

/-- A text that is one identifier and nothing else. -/
def IsIdentifierText (name : Text) : Prop :=
  ∃ t, lexemes name = [t] ∧ t.raw = name ∧ t.kind.isIdentifier = true

/-- Kinds of which only identifiers and commas make a list. -/
def AreListed (ks : List Kind) : Prop :=
  ∀ k ∈ ks, k.isIdentifier = true ∨ k = .comma

/-- A name without a double quote is one identifier once it has been quoted. -/
theorem isIdentifierText_quoteName {name : Text} (hn : name ≠ []) (hq : '\x22' ∉ name) :
    IsIdentifierText (Query.quoteName name) := by
  have hs : Layout.split .blank (Query.quoteName name) = ([], Query.quoteName name) :=
    Layout.split_of_not_blank (by decide) (by decide) (by decide) _
  have hr : Quoted.read '\x22' (name ++ ['\x22']) = some (name, []) := by
    have h : Quoted.read '\x22' (Quoted.double '\x22' name ++ ['\x22']) = some (name, []) :=
      read_double name (by simp)
    rwa [double_of_not_mem hq] at h
  have ht : take '\x22' (name ++ ['\x22']) =
      (⟨.quotedIdentifier name, Query.quoteName name⟩, []) := by
    change takeQuotedIdentifier (name ++ ['\x22']) = _
    simp [takeQuotedIdentifier, hr, hn, Quoted.write, double_of_not_mem hq, Query.quoteName]
  refine ⟨⟨.quotedIdentifier name, Query.quoteName name, 0⟩, ?_, rfl, rfl⟩
  have hc : (Layout.split .blank (Query.quoteName name)).2 = '\x22' :: (name ++ ['\x22']) := by
    rw [hs]
    rfl
  rw [lexemes, Cursor.ofText, Cursor.lexemes_cons hc, hs, ht, Cursor.lexemes_nil rfl]
  rfl

theorem isOpen_of_isIdentifier {k : Kind} (h : k.isIdentifier = true) : k.isOpen = false := by
  cases k <;> simp_all [Kind.isIdentifier, Kind.isOpen]

namespace IsIdentifierText
variable {name : Text} (h : IsIdentifierText name)
include h

theorem kinds (n : Nat) : ∃ k, (Cursor.lexemes ⟨name, n⟩).map Token.kind = [k] ∧
    k.isIdentifier = true := by
  obtain ⟨t, ht, -, hi⟩ := h
  refine ⟨t.kind, ?_, hi⟩
  rw [Cursor.kinds_lexemes name n 0]
  simpa [lexemes, Cursor.ofText] using congrArg (List.map Token.kind) ht

theorem allClosed (n : Nat) : AllClosed (Cursor.lexemes ⟨name, n⟩) := by
  obtain ⟨k, hk, hi⟩ := h.kinds n
  intro u hu
  have hm : u.kind ∈ [k] := hk ▸ List.mem_map_of_mem hu
  exact isOpen_of_isIdentifier (List.mem_singleton.1 hm ▸ hi)

/-- Nothing stands behind the identifier. -/
theorem endPlace : endPlace name = .blank := by
  obtain ⟨t, ht, hr, -⟩ := h
  rw [lexemes, Cursor.ofText] at ht
  cases hs : (Layout.split .blank name).2 with
  | nil =>
    rw [Cursor.lexemes_nil hs] at ht
    cases ht
  | cons d r =>
    have hsize := size_eq_of_split hs
    rw [Cursor.lexemes_cons hs] at ht
    obtain ⟨rfl, -⟩ := List.cons.inj ht
    have hlen := length_le_size (take d r).2
    rw [show (take d r).1.raw = name from hr] at hsize
    have hrest : (take d r).2 = [] := List.length_eq_zero_iff.1 (by omega)
    rw [endPlace_cons hs, hrest, endPlace_nil rfl]
    rfl

end IsIdentifierText

theorem lexemes_delimiter {c : Char} {k : Kind} (h : delimiter? c = some k) (w : Text) (n : Nat) :
    Cursor.lexemes ⟨c :: w, n⟩ = ⟨k, [c], n⟩ :: Cursor.lexemes ⟨w, n + c.utf8Size⟩ := by
  have hc : Text.isBlank c = false ∧ c ≠ '-' ∧ c ≠ '/' := by
    unfold delimiter? at h
    split at h <;> cases h <;> decide
  have hs : Layout.split .blank (c :: w) = ([], c :: w) :=
    Layout.split_of_not_blank hc.1 hc.2.1 hc.2.2 w
  have ht : take c w = (⟨k, [c]⟩, w) := by
    simp only [take, h]
  rw [Cursor.lexemes_cons (by rw [hs]), hs, ht]
  rfl

/-! ### A semicolon behind a text -/

section
variable {a : Text} {n : Nat}

/-- A semicolon at the very end of a text is a token of its own, unless it stands in a comment. -/
theorem Cursor.lexemes_semicolon (ha : AllClosed (lexemes ⟨a, n⟩)) :
    lexemes ⟨a ++ [';'], n⟩ = lexemes ⟨a, n⟩ ++
      if endPlace a = .blank then [⟨.semicolon, [';'], n + a.size⟩] else [] := by
  have hcomment {p : Layout.Place} (hp : p ≠ .blank) (m : Nat) : lexemesIn p ⟨[';'], m⟩ = [] := by
    cases p with
    | blank => exact absurd rfl hp
    | line => exact lexemes_nil rfl
    | block => exact lexemes_nil rfl
  rw [lexemes_append breaks_semicolon [] ha]
  by_cases hp : endPlace a = .blank
  · rw [if_pos hp, hp, lexemesIn_blank, lexemes_delimiter (k := .semicolon) rfl,
      @lexemes_nil [] _ rfl]
  · rw [if_neg hp, hcomment hp]

/-- A semicolon opens and closes no comment. -/
theorem endPlace_semicolon (ha : AllClosed (Cursor.lexemes ⟨a, n⟩)) :
    endPlace (a ++ [';']) = endPlace a := by
  induction a using endPlace.induct generalizing n with
  | case1 a h =>
    have hs := Layout.split_append_of_nil breaks_semicolon.isApart h []
    rw [endPlace_nil h]
    cases hplace : Layout.final .blank a with
    | blank =>
      rw [hplace] at hs
      rw [endPlace_cons (by rw [hs]; rfl), endPlace_nil rfl]
      rfl
    | line =>
      rw [hplace] at hs
      rw [endPlace_nil (by rw [hs]; rfl), Layout.final_append breaks_semicolon.isApart, hplace]
      rfl
    | block =>
      rw [hplace] at hs
      rw [endPlace_nil (by rw [hs]; rfl), Layout.final_append breaks_semicolon.isApart, hplace]
      rfl
  | case2 a d t h ih =>
    rw [Cursor.lexemes_cons h] at ha
    have hd : (take d t).1.kind.isOpen = false := ha _ List.mem_cons_self
    have hs := Layout.split_append_of_cons breaks_semicolon.isApart h []
    rw [endPlace_cons (by rw [hs]), take_followed breaks_semicolon [] hd, endPlace_cons h]
    exact ih fun u hu => ha u (List.mem_cons_of_mem _ hu)

end

/-! ### The names -/

theorem areListed_names {names : List Text} (h : ∀ c ∈ names, IsIdentifierText c) (n : Nat) :
    AreListed ((Cursor.lexemes ⟨List.intercalate [','] names, n⟩).map Token.kind) := by
  induction names generalizing n with
  | nil =>
    rw [List.intercalate_nil, Cursor.lexemes_nil rfl]
    intro k hk
    cases hk
  | cons c names ih =>
    have hc := h c List.mem_cons_self
    obtain ⟨k, hk, hi⟩ := hc.kinds n
    cases names with
    | nil =>
      rw [List.intercalate_singleton, hk]
      intro j hj
      exact .inl (List.mem_singleton.1 hj ▸ hi)
    | cons d names =>
      have hrest := ih (fun e he => h e (List.mem_cons_of_mem c he))
      rw [List.intercalate_cons_cons, List.append_assoc, List.singleton_append,
        Cursor.lexemes_append breaks_comma _ (hc.allClosed n), hc.endPlace, Cursor.lexemesIn_blank,
        lexemes_delimiter (k := .comma) rfl, List.map_append, hk]
      intro j hj
      simp only [List.map_cons, List.cons_append, List.nil_append, List.mem_cons] at hj
      rcases hj with rfl | rfl | hj
      · exact .inl hi
      · exact .inr rfl
      · exact hrest _ j hj

theorem lexemes_word :
    (lexemes "\nRETURNING".toList).map Token.kind = [.keyword .RETURNING] := by
  decide +kernel

theorem endPlace_word : endPlace "\nRETURNING".toList = .blank := by
  decide +kernel

theorem lexemes_space (w : Text) (n : Nat) :
    Cursor.lexemes ⟨' ' :: w, n⟩ = Cursor.lexemes ⟨w, n + 1⟩ := by
  have hs : Layout.split .blank (' ' :: w) = Layout.push ' ' (Layout.split .blank w) := by
    rw [Layout.split, if_pos (by decide)]
    · exact fun _ h => absurd h (by decide)
    · exact fun _ h => absurd h (by decide)
  rw [← Cursor.lexemesIn_blank, Cursor.lexemesIn, ← Cursor.lexemesIn_blank ⟨w, n + 1⟩,
    Cursor.lexemesIn, hs]
  simp only [Layout.push, size_cons, Nat.add_assoc]
  rfl

/-- The clause is the word and a list. -/
theorem kinds_clause {names : List Text} (h : ∀ c ∈ names, IsIdentifierText c) (n : Nat) :
    ∃ ks, (Cursor.lexemes ⟨Query.clause names, n⟩).map Token.kind = .keyword .RETURNING :: ks ∧
      AreListed ks := by
  have hw : (Cursor.lexemes ⟨"\nRETURNING".toList, n⟩).map Token.kind = [.keyword .RETURNING] :=
    (Cursor.kinds_lexemes _ n 0).trans lexemes_word
  have hclosed : AllClosed (Cursor.lexemes ⟨"\nRETURNING".toList, n⟩) := by
    intro u hu
    have hm : u.kind ∈ [Kind.keyword .RETURNING] := hw ▸ List.mem_map_of_mem hu
    rw [List.mem_singleton.1 hm]
    rfl
  have hc : Query.clause names =
      "\nRETURNING".toList ++ ' ' :: List.intercalate [','] names := rfl
  rw [hc, Cursor.lexemes_append breaks_space _ hclosed, endPlace_word, Cursor.lexemesIn_blank,
    lexemes_space, List.map_append, hw]
  exact ⟨_, rfl, areListed_names h _⟩

/-! ### The clause behind a text -/

theorem lexemes_append_clause {front : Text} (h : AllClosed (lexemes front)) (names : List Text) :
    lexemes (front ++ Query.clause names) = lexemes front ++
      Cursor.lexemesIn (endPlace front) ⟨Query.clause names, front.size⟩ := by
  rw [← Nat.zero_add front.size]
  exact Cursor.lexemes_append breaks_newline _ h

/-- The clause starts on a new line, which comments do not reach over but block comments. -/
theorem Cursor.lexemesIn_clause {p : Layout.Place} (hp : p ≠ .block) (names : List Text) (n : Nat) :
    lexemesIn p ⟨Query.clause names, n⟩ = lexemes ⟨Query.clause names, n⟩ := by
  rw [← lexemesIn_blank]
  cases p with
  | blank => rfl
  | line =>
    have hline (w : Text) : Layout.split .line ('\n' :: w) = Layout.split .blank ('\n' :: w) := by
      rw [Layout.split, Layout.split, if_pos rfl, if_pos (by decide)]
      · exact fun _ h => absurd h (by decide)
      · exact fun _ h => absurd h (by decide)
    have hclause : Layout.split .line (Query.clause names) =
        Layout.split .blank (Query.clause names) := hline _
    rw [lexemesIn, hclause, lexemesIn]
  | block => exact absurd rfl hp

end Token
end GeneratedKeys
