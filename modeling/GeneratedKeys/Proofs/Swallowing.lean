import GeneratedKeys.Proofs.Ending
import GeneratedKeys.Proofs.Quoting

/-!
# Clauses in open comments

The clause starts on a new line, which ends a comment to the end of a line, but not a block comment
that is still open at the end of the statement. That comment takes the clause in, and the text is to
be executed as if there were none, while keys are announced.
-/
namespace GeneratedKeys

namespace Token
open Text Query

variable {a front : Text} {n : Nat} {names : List Text}

/-- A token starts within the text. -/
theorem Cursor.start_of_mem_lexemes {u : Token} (hu : u ∈ lexemes ⟨a, n⟩) :
    n ≤ u.start ∧ u.start < n + a.size := by
  obtain ⟨before, c, rest, rfl, rfl⟩ := exists_take_of_mem_lexemes hu
  have hpos := c.utf8Size_pos
  simp only [size_append, size_cons]
  omega

/-- An open block comment takes in more than the new line of the clause. -/
theorem two_le_size_split (names : List Text) :
    2 ≤ (Layout.split .block (clause names)).1.size := by
  have hletters (w : Text) : 2 ≤ (Layout.split .block ('\n' :: 'R' :: w)).1.size := by
    have hnewline := ('\n').utf8Size_pos
    have hletter := ('R').utf8Size_pos
    rw [Layout.split, Layout.split]
    · simp only [Layout.push, size_cons]
      omega
    · exact fun _ h => absurd h (by decide)
    · exact fun _ h => absurd h (by decide)
  exact hletters _

/-- The word of a clause is a token at its place, unless the text in front of it ends in a block
comment. -/
theorem word_mem_iff (hfront : AllClosed (lexemes front)) (names : List Text) :
    ⟨.keyword .RETURNING, "RETURNING".toList, front.size + 1⟩ ∈ lexemes (front ++ clause names) ↔
      endPlace front ≠ .block := by
  rw [lexemes_append_clause hfront, List.mem_append]
  constructor
  · intro hword hblock
    rw [hblock, Cursor.lexemesIn] at hword
    rcases hword with hbefore | hbehind
    · have hstart := (Cursor.start_of_mem_lexemes hbefore).2
      dsimp only at hstart
      omega
    · have hstart := (Cursor.start_of_mem_lexemes hbehind).1
      have hsize := two_le_size_split names
      dsimp only at hstart
      omega
  · intro hplace
    rw [Cursor.lexemesIn_clause hplace, lexemes_clause]
    exact .inr List.mem_cons_self

/-- A clause that an open block comment takes in adds no token, unless it closes the comment. -/
theorem lexemes_swallowed (hfront : AllClosed (lexemes front)) (hplace : endPlace front = .block)
    (hclause : ¬ ['*', '/'] <:+: clause names) :
    lexemes (front ++ clause names) = lexemes front := by
  have hrest : (Layout.split .block (clause names)).2 = [] := by
    rw [Layout.split_openBlock hclause]
  rw [lexemes_append_clause hfront, hplace, Cursor.lexemesIn, hrest, Cursor.lexemes_nil rfl,
    List.append_nil]

/-! ### The final semicolon -/

theorem allClosed_dropSemicolon {sql : Text} (h : AllClosed (lexemes sql)) :
    AllClosed (lexemes (dropSemicolon sql)) := by
  rcases dropSemicolon_front sql with hcut | ⟨hcut, -⟩
  · rw [hcut] at h
    exact Cursor.allClosed_of_append breaks_semicolon h
  · rwa [← hcut]

theorem endPlace_dropSemicolon {sql : Text} (h : AllClosed (lexemes sql)) :
    endPlace (dropSemicolon sql) = endPlace sql := by
  have hfront := allClosed_dropSemicolon h
  rcases dropSemicolon_front sql with hcut | ⟨hcut, -⟩
  · exact (endPlace_semicolon hfront).symm.trans (congrArg endPlace hcut.symm)
  · rw [← hcut]

/-- In an open block comment the final semicolon is no token. -/
theorem lexemes_dropSemicolon {sql : Text} (h : AllClosed (lexemes sql))
    (hplace : endPlace sql = .block) : lexemes (dropSemicolon sql) = lexemes sql := by
  have hfront := allClosed_dropSemicolon h
  rw [← endPlace_dropSemicolon h] at hplace
  rcases dropSemicolon_front sql with hcut | ⟨hcut, -⟩
  · have hsemicolon := Cursor.lexemes_semicolon hfront
    rw [hplace, if_neg (by decide), List.append_nil] at hsemicolon
    exact hsemicolon.symm.trans (congrArg lexemes hcut.symm)
  · rw [← hcut]

end Token

namespace Query
open Token
variable {lookup : Text → Except String (List Column)}

/-- Where processing adds a clause, its word is a token at the place where it was added if and only
if the statement does not end in an open block comment. If it does, the text that comes of it is
read as the same statement, which returns no columns, unless the clause closes the comment. -/
theorem clause_live_iff {sql : Text} {s : Statement} {selection : Selection} {r : Result}
    (hread : Statement.read sql = .ok s) (hret : s.returning = false)
    (hprocess : ((ofSelection sql selection).process (.ofAnswers .builtin lookup)).2 = .ok r)
    (hkeys : r.generatesKeys = true) :
    ∃ names, r.sql = dropSemicolon sql ++ clause names ∧
      (⟨.keyword .RETURNING, "RETURNING".toList, (dropSemicolon sql).size + 1⟩ ∈ lexemes r.sql ↔
        ¬ EndsOpen sql) ∧
      (EndsOpen sql → ¬ ['*', '/'] <:+: clause names → Statement.read r.sql = .ok s) := by
  rw [process_ofAnswers lookup sql (.inl rfl)] at hprocess
  obtain ⟨names, -, -, hr⟩ := of_outcome hread hret hprocess hkeys
  have hclosed := Statement.allClosed_of_isClean (Statement.isClean_of_read hread)
  have hfront := allClosed_dropSemicolon hclosed
  have hplace := endPlace_dropSemicolon hclosed
  refine ⟨names, hr, ?_, fun hopen hclause => ?_⟩
  · rw [hr, addReturning, word_mem_iff hfront, hplace, Ne, endPlace_eq_block_iff]
  · have hblock := (endPlace_eq_block_iff sql).2 hopen
    have hsame := lexemes_swallowed hfront (hplace.trans hblock) hclause
    rw [lexemes_dropSemicolon hclosed hblock] at hsame
    rw [hr, addReturning, Statement.read_ok, hsame, ← Statement.read_ok]
    exact hread

/-- Keys are announced, but the statement with the clause returns no columns. -/
theorem clause_live_comment :
    let sql := "DELETE FROM t /* all".toList
    let rewritten := "DELETE FROM t /* all\nRETURNING id".toList
    let processed :=
      (ofSelection sql (.names ["id".toList])).process (.ofAnswers .builtin fun _ => .ok [])
    processed.2 = .ok ⟨true, rewritten⟩ ∧
      Statement.read rewritten = .ok ⟨.delete, none, "t".toList, false⟩ ∧
      ⟨.keyword .RETURNING, "RETURNING".toList, 21⟩ ∉ lexemes rewritten := by
  intro sql rewritten processed
  have hread : Statement.read sql = .ok ⟨.delete, none, "t".toList, false⟩ := by decide +kernel
  have hprocess : processed.2 = .ok ⟨true, rewritten⟩ := by decide +kernel
  have hopen : EndsOpen sql :=
    ⟨"DELETE FROM t".toList, [' '], " all".toList, rfl, by decide +kernel,
      .blank (by decide) .nil, by decide⟩
  obtain ⟨names, hr, hlive, hsame⟩ := clause_live_iff hread rfl hprocess rfl
  have hcut : rewritten = dropSemicolon sql ++ "\nRETURNING id".toList := by decide +kernel
  have hclause : clause names = "\nRETURNING id".toList :=
    List.append_cancel_left (hr.symm.trans hcut)
  refine ⟨hprocess, hsame hopen (by rw [hclause]; decide), fun hword => ?_⟩
  exact hlive.1 hword hopen

end Query
end GeneratedKeys
