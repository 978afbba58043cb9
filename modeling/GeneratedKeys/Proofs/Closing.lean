import GeneratedKeys.Proofs.Rewriting

/-!
# A semicolon at the end

A semicolon behind a statement that none has closed makes no difference, be it a token or a part of
a comment: the same statement is read, and the clause takes the semicolon's place.
-/
namespace GeneratedKeys

namespace Statement

theorem lacksSemicolon_iff (sql : Text) :
    LacksSemicolon sql ↔ ∀ (i : Nat) (hi : i < (Token.lexemes sql).length),
      (Token.lexemes sql)[i].kind = .semicolon →
        opening ((Token.lexemes sql).take i) ≠ closing ((Token.lexemes sql).take i) := by
  constructor
  · intro h i hi
    apply h _ _ ((Token.lexemes sql).drop (i + 1))
    rw [← List.drop_eq_getElem_cons hi, List.take_append_drop]
  · intro h before t after ht
    have hi : before.length < (Token.lexemes sql).length := by simp [ht]
    simpa [ht] using h before.length hi

instance (sql : Text) : Decidable (LacksSemicolon sql) :=
  decidable_of_iff' _ (lacksSemicolon_iff sql)

namespace Reader
variable {s : State} {t : Token} {kind : Kind} {target : Target} {returning : Bool}

/-- A statement that could end is closed by a semicolon. -/
theorem step_closed (hs : s.settle = .body kind target 0 returning) (ht : t.kind = .semicolon) :
    step s t = .ok (.closed kind target returning) := by
  simp [step, ht, option_ending, hs, advance, bodyStep]

end Reader

theorem read_semicolon {sql : Text} {s : Statement} (h : read sql = .ok s)
    (hs : LacksSemicolon sql) : read (sql ++ [';']) = .ok s := by
  have hcut : Token.lexemes (sql ++ [';']) = Token.lexemes sql ++
      if Token.endPlace sql = .blank then [⟨.semicolon, [';'], 0 + sql.size⟩] else [] :=
    Token.Cursor.lexemes_semicolon (allClosed_of_isClean (isClean_of_read h))
  by_cases hplace : Token.endPlace sql = .blank
  · obtain ⟨u, hu, hbody⟩ := exists_body_of_read h hs
    rw [if_pos hplace] at hcut
    refine read_ok.2 ⟨.closed s.kind ⟨s.schema, s.table⟩ s.returning, ?_, rfl⟩
    rw [hcut]
    exact Reader.run_append.2
      ⟨u, hu, Reader.run_cons.2 ⟨_, Reader.step_closed hbody rfl, Reader.run_nil.2 rfl⟩⟩
  · rw [if_neg hplace, List.append_nil] at hcut
    rwa [read_ok, hcut, ← read_ok]

end Statement

namespace Query

theorem addReturning_semicolon {sql : Text} (h : sql.getLast? ≠ some ';') (columns : List Text) :
    addReturning (sql ++ [';']) columns = addReturning sql columns := by
  simp [addReturning, dropSemicolon, h]

theorem addReturning_ne {sql : Text} (h : sql.getLast? ≠ some ';') (columns : List Text) :
    addReturning sql columns ≠ sql := by
  have hclause : clause columns ≠ [] := List.append_ne_nil_of_left_ne_nil (by decide) _
  rw [addReturning, dropSemicolon, if_neg h]
  exact mt List.append_right_eq_self.1 hclause

/-- What comes of a text with a semicolon added, by what comes of the text: a text that stays as it
is keeps the semicolon, and one with the clause is the same. -/
def Result.withSemicolon (sql : Text) (r : Result) : Result :=
  if r.sql = sql then { r with sql := sql ++ [';'] } else r

theorem adding_semicolon {sql : Text} (h : sql.getLast? ≠ some ';') (columns : List Text) :
    Result.adding (sql ++ [';']) columns = (Result.adding sql columns).withSemicolon sql := by
  cases columns with
  | nil => exact (if_pos rfl).symm
  | cons c cs =>
    have hne : (Result.adding sql (c :: cs)).sql ≠ sql := addReturning_ne h (c :: cs)
    rw [Result.withSemicolon, if_neg hne, Result.adding, addReturning_semicolon h]
    rfl

/-- A semicolon behind a statement that none has closed makes no difference: the same statement is
read, and for every selection and every source processing comes to the same error, or to a result
that announces keys for both texts or for neither and is the very same where the clause has been
added. The modes that survive are the same. -/
theorem process_semicolon {sql : Text} {s : Statement} (hread : Statement.read sql = .ok s)
    (hlacks : Statement.LacksSemicolon sql) (hlast : sql.getLast? ≠ some ';') :
    Statement.read (sql ++ [';']) = .ok s ∧
      ∀ (selection : Selection) (lookup : Text → Except String (List Column)),
        let processed (text : Text) :=
          (ofSelection text selection).process (.ofAnswers .builtin lookup)
        (processed (sql ++ [';'])).1.mode = (processed sql).1.mode ∧
          (processed (sql ++ [';'])).2 = (processed sql).2.map (Result.withSemicolon sql) := by
  have hagain := Statement.read_semicolon hread hlacks
  refine ⟨hagain, fun selection lookup => ?_⟩
  intro processed
  have hs : statement? .builtin sql = some s := statement?_of_ok hread
  have hs' : statement? .builtin (sql ++ [';']) = some s := statement?_of_ok hagain
  simp only [processed, process_ofAnswers lookup _ (.inl rfl : Support.builtin.isLoaded = true ∨ _)]
  constructor
  · simp only [settled, survivingMode, hs, hs']
  · simp only [outcome, hs, hs']
    by_cases hret : s.returning = true
    · simp only [hret, if_true, Except.map, Result.withSemicolon]
    · rw [if_neg hret, if_neg hret]
      cases selection.resolve lookup s.table with
      | error e => rfl
      | ok columns => exact congrArg Except.ok (adding_semicolon hlast columns)

/-- Semicolons between parentheses, in a string and in a comment close nothing, and one behind the
comment is a part of it. -/
theorem process_semicolon_comment :
    let sql := "UPDATE t SET a = (b; ';') -- c; d".toList
    let lookup := fun _ => Except.ok (Column.numbered ["id".toList])
    let processed (text : Text) := (ofSelection text .all).process (.ofAnswers .builtin lookup)
    Statement.read (sql ++ [';']) = .ok ⟨.update, none, "t".toList, false⟩ ∧
      (processed (sql ++ [';'])).2 = (processed sql).2 := by
  intro sql lookup processed
  have hread : Statement.read sql = .ok ⟨.update, none, "t".toList, false⟩ := by decide +kernel
  obtain ⟨hagain, hsame⟩ := process_semicolon hread (by decide +kernel) (by decide)
  have hprocess : (processed sql).2 =
      .ok ⟨true, "UPDATE t SET a = (b; ';') -- c; d\nRETURNING \"id\"".toList⟩ := by
    decide +kernel
  refine ⟨hagain, (hsame .all lookup).2.trans ?_⟩
  change (processed sql).2.map (Result.withSemicolon sql) = _
  rw [hprocess]
  decide +kernel

end Query
end GeneratedKeys
