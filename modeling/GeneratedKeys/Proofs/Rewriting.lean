import GeneratedKeys.Proofs.Acceptance
import GeneratedKeys.Proofs.Clause
import GeneratedKeys.Proofs.Outcome
import Mathlib.Control.Monad.Basic

/-!
# Rewriting is sound

A statement to which the clause has been added is read as the same statement, which now returns
columns. The clause starts with a break, so it adds its tokens behind those of the statement, less
a final semicolon; and where the statement could end, its body can go on.
-/
namespace GeneratedKeys

namespace Statement
namespace Reader
variable {s : State} {t : Token} {kind : Kind} {target : Target} {returning : Bool}

/-- No optional part starts with what can end the head of a statement. -/
theorem option_ending (s : State) {k : Token.Kind} (hk : k = .keyword .RETURNING ∨ k = .semicolon) :
    option? s k = none := by
  rcases hk with rfl | rfl <;> cases s with
  | named kind first => cases kind <;> rfl
  | located kind target => cases kind <;> rfl
  | _ => rfl

/-- A statement that could end goes on with RETURNING. -/
theorem step_returning (hs : s.settle = .body kind target 0 returning)
    (ht : t.kind = .keyword .RETURNING) : step s t = .ok (.body kind target 0 true) := by
  simp [step, ht, option_ending, hs, advance, bodyStep]

theorem run_listed {ts : List Token} (h : Token.AreListed (ts.map Token.kind)) :
    run (.body kind target 0 returning) ts = .ok (.body kind target 0 returning) := by
  induction ts with
  | nil => exact run_nil.2 rfl
  | cons t ts ih =>
    refine run_cons.2 ⟨_, ?_, ih fun k hk => h k (List.mem_cons_of_mem t.kind hk)⟩
    rw [step_body]
    rcases h t.kind List.mem_cons_self with hi | hc
    · cases hk : t.kind <;> simp_all [Token.Kind.isIdentifier, bodyStep]
    · rw [hc]
      rfl

theorem run_clause {ts : List Token} {ks : List Token.Kind}
    (hs : s.settle = .body kind target 0 returning)
    (hts : ts.map Token.kind = .keyword .RETURNING :: ks) (hks : Token.AreListed ks) :
    run s ts = .ok (.body kind target 0 true) := by
  obtain ⟨t, rest, rfl, ht, rfl⟩ := List.map_eq_cons_iff.1 hts
  exact run_cons.2 ⟨_, step_returning hs ht, run_listed hks⟩

theorem option_ne_closed (s : State) (k : Token.Kind) :
    option? s k ≠ some (.closed kind target returning) := by
  have ha : ∀ kind' target',
      optionAfterTarget? kind' target' k ≠ some (.closed kind target returning) := by
    intro kind' target' h
    unfold optionAfterTarget? at h
    split at h <;> cases h
  intro h
  unfold option? at h
  split at h
  case h_3 => exact ha _ _ h
  case h_4 => exact ha _ _ h
  all_goals cases h

theorem required_ne_closed (s : State) (t : Token) :
    required? s t ≠ some (.closed kind target returning) := by
  have hi : afterIdentifier? t.raw s ≠ some (.closed kind target returning) := by
    intro h
    unfold afterIdentifier? at h
    split at h <;> cases h
  intro h
  unfold required? at h
  split at h
  case h_16 => exact hi h
  case h_17 => exact hi h
  all_goals cases h

/-- Only a semicolon outside all parentheses closes a statement. -/
theorem of_step_closed (h : step s t = .ok (.closed kind target returning)) :
    t.kind = .semicolon ∧ s.settle = .body kind target 0 returning := by
  unfold step at h
  split at h
  · rename_i u hu
    cases h
    exact absurd hu (option_ne_closed s t.kind)
  · generalize s.settle = v at h
    revert h
    fun_cases advance v t with
    | case1 kind' target' depth returning' =>
      generalize hk : t.kind = k
      fun_cases bodyStep kind' target' depth returning' k <;> intro h <;> cases h
      exact ⟨rfl, rfl⟩
    | case2 =>
      intro h
      cases h
    | case3 v hb hc u hu =>
      intro h
      cases h
      exact absurd hu (required_ne_closed v t)
    | case4 =>
      intro h
      cases h
    | case5 =>
      intro h
      cases h

/-- Behind the tokens of a statement that has been closed, less the last one, it could end too. -/
theorem of_run_closed {ts : List Token} (h : run .start ts = .ok (.closed kind target returning)) :
    ∃ before t s, ts = before ++ [t] ∧ t.kind = .semicolon ∧ opening before = closing before ∧
      run .start before = .ok s ∧ s.settle = .body kind target 0 returning := by
  rcases List.eq_nil_or_concat ts with rfl | ⟨before, t, rfl⟩
  · cases run_nil.1 h
  · rw [List.concat_eq_append] at h ⊢
    obtain ⟨s, hs, ht⟩ := run_append.1 h
    obtain ⟨u, hu, hn⟩ := run_cons.1 ht
    obtain rfl := run_nil.1 hn
    obtain ⟨hk, hb⟩ := of_step_closed hu
    have hd := run_depth hs
    rw [← depth_settle s, hb] at hd
    exact ⟨before, t, s, rfl, hk, by simpa [State.depth] using hd.symm, hs, hb⟩

theorem step_semicolon {u : State} (ht : t.kind = .semicolon) (h : step s t = .ok u) :
    ∃ kind target depth returning, s.settle = .body kind target depth returning ∧
      u = if depth = 0 then .closed kind target returning
        else .body kind target depth returning := by
  rw [step, ht, option_ending s (.inr rfl)] at h
  generalize s.settle = v at h ⊢
  revert h
  fun_cases advance v t with
  | case1 kind target depth returning =>
    rw [ht]
    intro h
    refine ⟨kind, target, depth, returning, rfl, ?_⟩
    by_cases hd : depth = 0
    · rw [if_pos hd]
      simpa [bodyStep, hd] using h.symm
    · rw [if_neg hd]
      simpa [bodyStep, hd] using h.symm
  | case2 =>
    intro h
    cases h
  | case3 v hb hc w hw =>
    cases v <;> simp [required?, ht] at hw
  | case4 =>
    intro h
    cases h
  | case5 =>
    intro h
    cases h

theorem settle_closed (h : s.settle = .closed kind target returning) :
    s = .closed kind target returning := by
  cases s with
  | named kind first => cases kind <;> cases h
  | located kind target => cases kind <;> cases h
  | clause kind target => cases kind <;> cases h
  | closed kind target returning => exact h
  | _ => cases h

theorem of_finish {st : Statement} (h : finish s = .ok st) :
    s.settle = .body st.kind ⟨st.schema, st.table⟩ 0 st.returning ∨
      s = .closed st.kind ⟨st.schema, st.table⟩ st.returning := by
  unfold finish at h
  split at h
  · rename_i hs
    cases h
    exact .inl hs
  · rename_i hs
    cases h
    exact .inr (settle_closed hs)
  · cases h

/-- A semicolon as the last token closes a statement that could end in front of it. -/
theorem closed_of_semicolon {u : State} {st : Statement} (ht : t.kind = .semicolon)
    (h : step s t = .ok u) (hf : finish u = .ok st) :
    s.settle = .body st.kind ⟨st.schema, st.table⟩ 0 st.returning ∧
      u = .closed st.kind ⟨st.schema, st.table⟩ st.returning := by
  obtain ⟨kind, target, depth, returning, hb, rfl⟩ := step_semicolon ht h
  by_cases hd : depth = 0
  · rw [if_pos hd] at hf ⊢
    rw [hb, hd]
    rcases of_finish hf with hbody | hclosed
    · cases hbody
    · cases hclosed
      exact ⟨rfl, rfl⟩
  · rw [if_neg hd] at hf
    rcases of_finish hf with hbody | hclosed
    · cases hbody
      exact absurd rfl hd
    · cases hclosed

end Reader

theorem isClean_of_read {sql : Text} {s : Statement} (h : read sql = .ok s) :
    IsClean (Token.lexemes sql) := by
  obtain ⟨u, hr, hf⟩ := read_ok.1 h
  obtain ⟨depth, head, body, he, hh, hl, -⟩ :=
    Reader.isHeaded_of_reads ⟨u, s.returning, hr, hf⟩
  rw [he, isClean_append]
  exact ⟨hh.isClean, hl⟩

theorem allClosed_of_isClean {ts : List Token} (h : IsClean ts) : Token.AllClosed ts := by
  intro t ht
  cases hk : t.kind with
  | malformed m => exact absurd hk (h t ht m)
  | _ => rfl

/-- A semicolon outside all parentheses is the last character of a text. -/
def SemicolonLast (sql : Text) : Prop :=
  ∀ before t after, Token.lexemes sql = before ++ t :: after → t.kind = .semicolon →
    opening before = closing before → t.stop = sql.size

/-- A token at the end of a text makes up its end. -/
theorem getLast?_of_semicolon {sql : Text} {t : Token} (ht : t ∈ Token.lexemes sql)
    (hk : t.kind = .semicolon) (hs : t.stop = sql.size) : sql.getLast? = some ';' := by
  obtain ⟨before, c, rest, he, rfl⟩ := Token.Cursor.exists_take_of_mem_lexemes ht
  have ha := Token.take_append c rest
  rw [Token.take_semicolon hk] at ha
  obtain ⟨rfl, hrest⟩ := List.cons.inj ha
  have hsize : Text.size rest = 0 := by
    simp only [Token.stop, Token.take_semicolon hk, he, Text.size_append, Text.size_cons,
      Text.size_nil] at hs
    omega
  have hlen := Text.length_le_size rest
  rw [he, List.length_eq_zero_iff.1 (by omega : rest.length = 0)]
  simp

/-- A statement is still there when its text is cut at a final semicolon, and its body can go on. -/
structure Extends (sql : Text) (s : Statement) : Prop where
  place : Token.endPlace sql ≠ .block
  closed : Token.AllClosed (Token.lexemes sql)
  body : ∃ u, Reader.run .start (Token.lexemes sql) = .ok u ∧
    u.settle = .body s.kind ⟨s.schema, s.table⟩ 0 s.returning

/-- A text has no semicolon outside all parentheses. -/
def LacksSemicolon (sql : Text) : Prop :=
  ∀ before t after, Token.lexemes sql = before ++ t :: after → t.kind = .semicolon →
    opening before ≠ closing before

/-- Where no semicolon closes a statement, its body can go on. -/
theorem exists_body_of_read {sql : Text} {s : Statement} (h : read sql = .ok s)
    (hs : LacksSemicolon sql) :
    ∃ u, Reader.run .start (Token.lexemes sql) = .ok u ∧
      u.settle = .body s.kind ⟨s.schema, s.table⟩ 0 s.returning := by
  obtain ⟨u, hr, hf⟩ := read_ok.1 h
  refine ⟨u, hr, ?_⟩
  rcases Reader.of_finish hf with hb | rfl
  · exact hb
  · obtain ⟨before, t, v, he, hk, hc, -, -⟩ := Reader.of_run_closed hr
    exact absurd hc (hs before t [] he hk)

theorem extends_of_no_semicolon {sql : Text} {s : Statement} (h : read sql = .ok s)
    (hp : Token.endPlace sql ≠ .block) (hs : SemicolonLast sql)
    (hl : sql.getLast? ≠ some ';') : Extends sql s := by
  refine ⟨hp, allClosed_of_isClean (isClean_of_read h), exists_body_of_read h ?_⟩
  intro before t after he hk hc
  have ht : t ∈ Token.lexemes sql := by simp [he]
  exact hl (getLast?_of_semicolon ht hk (hs before t after he hk hc))

theorem extends_of_semicolon {front : Text} {s : Statement} (h : read (front ++ [';']) = .ok s)
    (hp : Token.endPlace (front ++ [';']) ≠ .block) (hs : SemicolonLast (front ++ [';'])) :
    Extends front s := by
  have hclosed : Token.AllClosed (Token.lexemes front) :=
    Token.Cursor.allClosed_of_append Token.breaks_semicolon
      (allClosed_of_isClean (isClean_of_read h))
  have hcut : Token.lexemes (front ++ [';']) = Token.lexemes front ++
      if Token.endPlace front = .blank then [⟨.semicolon, [';'], 0 + front.size⟩] else [] :=
    Token.Cursor.lexemes_semicolon hclosed
  refine ⟨Token.endPlace_semicolon hclosed ▸ hp, hclosed, ?_⟩
  by_cases hplace : Token.endPlace front = .blank
  · obtain ⟨u, hr, hf⟩ := read_ok.1 h
    rw [hcut, if_pos hplace] at hr
    obtain ⟨v, hv, ht⟩ := Reader.run_append.1 hr
    obtain ⟨w, hw, hn⟩ := Reader.run_cons.1 ht
    obtain rfl := Reader.run_nil.1 hn
    exact ⟨v, hv, (Reader.closed_of_semicolon rfl hw hf).1⟩
  · -- The semicolon is the end of a comment, so the tokens are all there without it.
    rw [if_neg hplace, List.append_nil] at hcut
    have hfront : read front = .ok s := by rwa [read_ok, hcut, ← read_ok] at h
    refine exists_body_of_read hfront fun before t after he hk hc => ?_
    have hstop := hs before t after (hcut.trans he) hk hc
    have ht : t ∈ Token.lexemes front := by simp [he]
    have hle := Token.Cursor.stop_le_of_mem_lexemes ht
    have hpos : 0 < Text.size [';'] := by decide
    rw [hstop, Text.size_append] at hle
    omega

theorem read_clause {front : Text} {s : Statement} {names : List Text} (h : Extends front s)
    (hn : ∀ c ∈ names, Token.IsIdentifierText c) :
    read (front ++ Query.clause names) = .ok { s with returning := true } := by
  obtain ⟨u, hu, hb⟩ := h.body
  obtain ⟨ks, hks, hl⟩ := Token.kinds_clause hn front.size
  refine read_ok.2 ⟨.body s.kind ⟨s.schema, s.table⟩ 0 true, ?_, rfl⟩
  rw [Token.lexemes_append_clause h.closed, Token.Cursor.lexemesIn_clause h.place]
  exact Reader.run_append.2 ⟨u, hu, Reader.run_clause hb hks hl⟩

theorem extends_dropSemicolon {sql : Text} {s : Statement} (h : read sql = .ok s)
    (hp : Token.endPlace sql ≠ .block) (hs : SemicolonLast sql) :
    Extends (Query.dropSemicolon sql) s := by
  rcases Query.dropSemicolon_front sql with hcut | ⟨hcut, hl⟩
  · rw [hcut] at h hp hs
    exact extends_of_semicolon h hp hs
  · rw [← hcut] at hl ⊢
    exact extends_of_no_semicolon h hp hs hl

end Statement

namespace Query
variable {lookup : Text → Except String (List Column)}

/-- What a selection adds comes to identifiers: the columns that the source reports have names
without double quotes, and names to be written as given are identifiers themselves. -/
def Selection.IsNamed (lookup : Text → Except String (List Column)) (table : Text) :
    Selection → Prop
  | .none => True
  | .all | .positions _ =>
    ∀ columns, lookup (TableName.pattern table) = .ok columns →
      ∀ c ∈ columns, c.name ≠ [] ∧ '\x22' ∉ c.name
  | .names wanted => ∀ name ∈ wanted, Token.IsIdentifierText name

theorem isIdentifierText_of_mem_quotedNames {columns : List Column} {wanted : Int → Bool}
    (h : ∀ c ∈ columns, c.name ≠ [] ∧ '\x22' ∉ c.name) :
    ∀ name ∈ quotedNames wanted columns, Token.IsIdentifierText name := by
  intro name hn
  obtain ⟨c, hc, rfl⟩ := List.mem_map.1 hn
  obtain ⟨hne, hq⟩ := h c (List.mem_filter.1 hc).1
  exact Token.isIdentifierText_quoteName hne hq

theorem isIdentifierText_of_resolve {selection : Selection} {table : Text} {names : List Text}
    (hs : selection.IsNamed lookup table) (h : selection.resolve lookup table = .ok names) :
    ∀ name ∈ names, Token.IsIdentifierText name := by
  have hlookup : ∀ wanted : Int → Bool,
      (∀ columns, lookup (TableName.pattern table) = .ok columns →
        ∀ c ∈ columns, c.name ≠ [] ∧ '\x22' ∉ c.name) →
      ((lookup (TableName.pattern table)).mapError Failure.metadata).map (quotedNames wanted) =
        .ok names → ∀ name ∈ names, Token.IsIdentifierText name := by
    intro wanted hc hr
    cases hl : lookup (TableName.pattern table) with
    | error e => simp [hl, Except.mapError, Except.map] at hr
    | ok columns =>
      simp only [hl, Except.mapError, Except.map, Except.ok.injEq] at hr
      rw [← hr]
      exact isIdentifierText_of_mem_quotedNames (hc columns hl)
  cases selection with
  | none =>
    cases h
    intro name hn
    cases hn
  | names wanted =>
    cases h
    exact hs
  | all => exact hlookup _ hs h
  | positions wanted => exact hlookup _ hs h

/-- Where a clause has been added, names that the selection comes to have been added. -/
theorem of_outcome {sql : Text} {s : Statement} {selection : Selection} {r : Result}
    (hread : Statement.read sql = .ok s) (hret : s.returning = false)
    (h : outcome .builtin lookup sql selection = .ok r) (hk : r.generatesKeys = true) :
    ∃ names, names ≠ [] ∧ selection.resolve lookup s.table = .ok names ∧
      r.sql = addReturning sql names := by
  have hs : statement? .builtin sql = some s := by
    simp [statement?, Support.builtin, hread, Except.toOption]
  simp only [outcome, hs, hret] at h
  cases hr : selection.resolve lookup s.table with
  | error e => simp [hr, Except.map] at h
  | ok names =>
    simp only [hr, Except.map, Bool.false_eq_true, if_false, Except.ok.injEq] at h
    cases names with
    | nil =>
      rw [← h] at hk
      cases hk
    | cons c cs => exact ⟨c :: cs, by simp, rfl, by rw [← h]; rfl⟩

/-- A statement that returns columns already stays as it is. -/
theorem process_returning {sql : Text} {s : Statement} (hread : Statement.read sql = .ok s)
    (hret : s.returning = true) (selection : Selection)
    (lookup : Text → Except String (List Column)) :
    ((ofSelection sql selection).process (.ofAnswers .builtin lookup)).2 = .ok ⟨true, sql⟩ := by
  have hs : statement? .builtin sql = some s := by
    simp [statement?, Support.builtin, hread, Except.toOption]
  rw [process_ofAnswers lookup sql (.inl rfl)]
  simp only [outcome, hs, hret, if_true]

/-- Rewriting is sound: where processing adds a clause to a statement, the text that comes of it is
read as the same statement, which now returns columns, and is not rewritten again. -/
theorem read_of_process {sql : Text} {s : Statement} {selection : Selection} {r : Result}
    (hread : Statement.read sql = .ok s) (hret : s.returning = false)
    (hplace : Token.endPlace sql ≠ .block) (hsemicolon : Statement.SemicolonLast sql)
    (hnamed : selection.IsNamed lookup s.table)
    (hprocess : ((ofSelection sql selection).process (.ofAnswers .builtin lookup)).2 = .ok r)
    (hkeys : r.generatesKeys = true) :
    Statement.read r.sql = .ok { s with returning := true } ∧
      ∀ (again : Selection) (other : Text → Except String (List Column)),
        ((ofSelection r.sql again).process (.ofAnswers .builtin other)).2 = .ok ⟨true, r.sql⟩ := by
  rw [process_ofAnswers lookup sql (.inl rfl)] at hprocess
  obtain ⟨names, -, hr, he⟩ := of_outcome hread hret hprocess hkeys
  have hfront := Statement.extends_dropSemicolon hread hplace hsemicolon
  have hagain : Statement.read r.sql = .ok { s with returning := true } := by
    rw [he, addReturning]
    exact Statement.read_clause hfront (isIdentifierText_of_resolve hnamed hr)
  exact ⟨hagain, fun again other => process_returning hagain rfl again other⟩

/-- The final semicolon of a statement gives way to the clause. -/
theorem read_of_process_all :
    let sql := "INSERT INTO t (a) VALUES (1);".toList
    let rewritten := "INSERT INTO t (a) VALUES (1)\nRETURNING \"id\",\"Name\"".toList
    let lookup := fun _ => Except.ok (Column.numbered ["id".toList, "Name".toList])
    ((ofSelection sql .all).process (.ofAnswers .builtin lookup)).2 = .ok ⟨true, rewritten⟩ ∧
      Statement.read rewritten = .ok ⟨.insert, none, "t".toList, true⟩ ∧
      ∀ (again : Selection) (other : Text → Except String (List Column)),
        ((ofSelection rewritten again).process (.ofAnswers .builtin other)).2 =
          .ok ⟨true, rewritten⟩ := by
  intro sql rewritten lookup
  have hread : Statement.read sql = .ok ⟨.insert, none, "t".toList, false⟩ := by decide +kernel
  have hprocess : ((ofSelection sql .all).process (.ofAnswers .builtin lookup)).2 =
      .ok ⟨true, rewritten⟩ := by decide +kernel
  have hsemicolon : ∀ t ∈ Token.lexemes sql, t.kind = .semicolon → t.stop = Text.size sql := by
    decide +kernel
  have hnamed : Selection.all.IsNamed lookup "t".toList := by
    intro columns hc
    cases hc
    decide
  exact ⟨hprocess, read_of_process hread rfl (by decide +kernel)
    (fun before t after he hk _ => hsemicolon t (by simp [he]) hk) hnamed hprocess rfl⟩

end Query
end GeneratedKeys
