import GeneratedKeys.Proofs.Ending
import GeneratedKeys.Proofs.Quoting

/-!
# Layout behind the final semicolon

The reader takes a semicolon for the last one if no token follows it, but the clause replaces a
semicolon only at the very end of a text. A statement with closed layout behind its semicolon keeps
it in front of the clause, so what comes of it is rejected at the clause.
-/
namespace GeneratedKeys

namespace Token
open Text Layout

theorem getLast?_cons_ne {c x : Char} {g : Text} (hc : c ≠ x) (hg : g.getLast? ≠ some x) :
    (c :: g).getLast? ≠ some x := by
  cases g with
  | nil => simpa using hc
  | cons d g => simpa using hg

/-- Layout does not end with a semicolon, which closes no comment. -/
theorem Layout.IsFiller.getLast? {g : Text} (h : IsFiller g) : g.getLast? ≠ some ';' := by
  induction h with
  | nil => simp
  | @blank c g hc _ ih =>
    have hne : c ≠ ';' := by
      rintro rfl
      exact absurd hc (by decide)
    exact getLast?_cons_ne hne ih
  | @line body g _ _ ih =>
    change (['-', '-'] ++ (body ++ '\n' :: g)).getLast? ≠ _
    rw [← List.append_assoc, List.getLast?_append_cons]
    exact getLast?_cons_ne (by decide) ih
  | @block body g _ _ ih =>
    change (['/', '*'] ++ (body ++ (['*'] ++ '/' :: g))).getLast? ≠ _
    rw [← List.append_assoc, ← List.append_assoc, List.getLast?_append_cons]
    exact getLast?_cons_ne (by decide) ih

/-- No comment is open at the end of closed layout. -/
theorem Layout.IsFiller.final {g : Text} (h : IsFiller g) : Layout.final .blank g = .blank := by
  have hplace := h.final_append []
  rwa [List.append_nil] at hplace

theorem Layout.IsFiller.endPlace {g : Text} (h : IsFiller g) : endPlace g = .blank := by
  have hcut := h.split_append []
  rw [List.append_nil] at hcut
  have hnil : (Layout.split .blank g).2 = [] := by
    rw [hcut]
    rfl
  rw [endPlace_nil hnil, h.final]

/-- What stands behind a token that is the last one. -/
theorem endPlace_of_last {front tail raw : Text} {k : Kind} {before : List Token}
    (h : lexemes (front ++ (raw ++ tail)) = before ++ [⟨k, raw, front.size⟩]) :
    endPlace (front ++ (raw ++ tail)) = endPlace tail := by
  obtain ⟨start, rest, hcut, hstop, hplace, -⟩ := Cursor.cut_end (front ++ (raw ++ tail)) 0
  rw [show Cursor.lexemes ⟨front ++ (raw ++ tail), 0⟩ = _ from h, List.map_append, List.map_singleton,
    List.getLastD_concat, Nat.zero_add, stop] at hstop
  have hsize : (front ++ raw).size = start.size := by rw [size_append, hstop]
  have hrest := append_inj_of_size ((List.append_assoc front raw tail).trans hcut) hsize
  rw [hplace, hrest]

end Token

namespace Statement
open Token

namespace Reader
variable {s : State} {t : Token}

/-- A statement whose last token is a semicolon has been closed by it. -/
theorem closed_of_last {before : List Token} {st : Statement}
    (ht : t.kind = .semicolon) (hr : run .start (before ++ [t]) = .ok s)
    (hf : finish s = .ok st) : s = .closed st.kind ⟨st.schema, st.table⟩ st.returning := by
  obtain ⟨u, -, hlast⟩ := run_append.1 hr
  obtain ⟨v, hv, hnil⟩ := run_cons.1 hlast
  obtain rfl := run_nil.1 hnil
  exact (closed_of_semicolon ht hv hf).2

/-- Nothing is read behind a closed statement. -/
theorem run_closed {kind : Kind} {target : Target} {returning : Bool} (t : Token)
    (ts : List Token) :
    run (.closed kind target returning) (t :: ts) = .error (Fault.secondStatement.at t) := rfl

theorem run_append_error {ts us : List Token} {u : State} {r : Rejection}
    (hts : run s ts = .ok u) (hus : run u us = .error r) : run s (ts ++ us) = .error r := by
  rw [run, List.foldlM_append, ← run, hts]
  exact hus

end Reader

/-- The clause behind a statement that stays closed is refused at its word. -/
theorem read_clause_of_trailing {front tail : Text} {before : List Token} {s : Statement}
    (hread : read (front ++ ';' :: tail) = .ok s)
    (hlast : Token.lexemes (front ++ ';' :: tail) = before ++ [⟨.semicolon, [';'], front.size⟩])
    (htail : Layout.IsFiller tail) (names : List Text) :
    read ((front ++ ';' :: tail) ++ Query.clause names) =
      .error ⟨.secondStatement,
        ⟨(front ++ ';' :: tail).size + 1, (front ++ ';' :: tail).size + 10⟩⟩ := by
  have hclosed : AllClosed (Token.lexemes (front ++ ';' :: tail)) :=
    allClosed_of_isClean (isClean_of_read hread)
  have hbehind : endPlace (front ++ ';' :: tail) = endPlace tail :=
    @endPlace_of_last front tail [';'] _ _ hlast
  have hplace := hbehind.trans htail.endPlace
  generalize front ++ ';' :: tail = sql at *
  obtain ⟨u, hu, hf⟩ := read_ok.1 hread
  have hu' := hu
  rw [hlast] at hu'
  have hend := Reader.closed_of_last rfl hu' hf
  have hcut := lexemes_append_clause hclosed names
  rw [hplace, Cursor.lexemesIn_blank, lexemes_clause] at hcut
  have hrun : Reader.run .start (Token.lexemes (sql ++ Query.clause names)) =
      .error (Fault.secondStatement.at ⟨.keyword .RETURNING, "RETURNING".toList, sql.size + 1⟩) := by
    rw [hcut]
    refine Reader.run_append_error hu ?_
    rw [hend, Reader.run_closed]
  rw [read, hrun]
  rfl

end Statement

namespace Query
open Token
variable {lookup : Text → Except String (List Column)}

theorem dropSemicolon_of_trailing {front tail : Text} (htail : Layout.IsFiller tail)
    (hne : tail ≠ []) : dropSemicolon (front ++ ';' :: tail) = front ++ ';' :: tail := by
  obtain ⟨c, g, rfl⟩ := List.exists_cons_of_ne_nil hne
  have hlast : (front ++ ';' :: c :: g).getLast? = (c :: g).getLast? := by
    rw [List.getLast?_append_cons, List.getLast?_cons_cons]
  rw [dropSemicolon, if_neg]
  rw [hlast]
  exact htail.getLast?

/-- Closed layout behind the final semicolon spoils the rewriting: where processing adds the clause,
the semicolon stays, and what comes of it is rejected at the word RETURNING. -/
theorem rejected_of_trailing {front tail : Text} {before : List Token} {s : Statement}
    {selection : Selection} {r : Result}
    (hread : Statement.read (front ++ ';' :: tail) = .ok s) (hret : s.returning = false)
    (hlast : lexemes (front ++ ';' :: tail) = before ++ [⟨.semicolon, [';'], front.size⟩])
    (htail : Layout.IsFiller tail) (hne : tail ≠ [])
    (hprocess : ((ofSelection (front ++ ';' :: tail) selection).process
      (.ofAnswers .builtin lookup)).2 = .ok r)
    (hkeys : r.generatesKeys = true) :
    Statement.read r.sql = .error ⟨.secondStatement,
      ⟨(front ++ ';' :: tail).size + 1, (front ++ ';' :: tail).size + 10⟩⟩ := by
  rw [process_ofAnswers lookup _ (.inl rfl)] at hprocess
  obtain ⟨names, -, -, hr⟩ := of_outcome hread hret hprocess hkeys
  rw [hr, addReturning, dropSemicolon_of_trailing htail hne]
  exact Statement.read_clause_of_trailing hread hlast htail names

/-- One space behind the semicolon is enough. -/
theorem rejected_of_trailing_space :
    let sql := "INSERT INTO t (a) VALUES (1); ".toList
    let rewritten := "INSERT INTO t (a) VALUES (1); \nRETURNING id".toList
    let lookup := fun _ => Except.ok []
    ((ofSelection sql (.names ["id".toList])).process (.ofAnswers .builtin lookup)).2 =
        .ok ⟨true, rewritten⟩ ∧
      Statement.read rewritten = .error ⟨.secondStatement, ⟨31, 40⟩⟩ := by
  intro sql rewritten lookup
  have hread : Statement.read sql = .ok ⟨.insert, none, "t".toList, false⟩ := by decide +kernel
  have hprocess : ((ofSelection sql (.names ["id".toList])).process
      (.ofAnswers .builtin lookup)).2 = .ok ⟨true, rewritten⟩ := by decide +kernel
  have hlast : lexemes sql = (lexemes sql).dropLast ++ [⟨.semicolon, [';'], 28⟩] := by
    decide +kernel
  have hspace : Layout.IsFiller [' '] := .blank (by decide) .nil
  have hreject := @rejected_of_trailing lookup "INSERT INTO t (a) VALUES (1)".toList [' '] _ _ _ _
    hread rfl hlast hspace (by decide) hprocess rfl
  exact ⟨hprocess, hreject⟩

end Query
end GeneratedKeys
