import GeneratedKeys.Statement.Reader
import Mathlib.Control.Monad.Basic

/-!
# Nesting and RETURNING

The reader counts parentheses only from the end of the head on, and starts with one of them open
where the head ends in one. Its count is nevertheless that of the whole text: in every state the
parentheses read so far are balanced up to the state's own depth. So RETURNING is noticed exactly
where as many parentheses have been closed as opened before it, counted from the first token.
-/
namespace GeneratedKeys.Statement

/-- The number of parentheses that tokens open. -/
def opening (ts : List Token) : Nat :=
  ts.countP fun t => t.kind = .leftParen

/-- The number of parentheses that tokens close. -/
def closing (ts : List Token) : Nat :=
  ts.countP fun t => t.kind = .rightParen

@[simp] theorem opening_nil : opening [] = 0 := rfl

@[simp] theorem closing_nil : closing [] = 0 := rfl

@[simp] theorem opening_cons (t : Token) (ts : List Token) :
    opening (t :: ts) = opening ts + if t.kind = .leftParen then 1 else 0 := by
  simp [opening, List.countP_cons]

@[simp] theorem closing_cons (t : Token) (ts : List Token) :
    closing (t :: ts) = closing ts + if t.kind = .rightParen then 1 else 0 := by
  simp [closing, List.countP_cons]

namespace Reader

/-- The number of parentheses that are open in a state. -/
def State.depth : State → Nat
  | .column _ _ | .columnEnd _ _ => 1
  | .body _ _ depth _ => depth
  | _ => 0

/-- Whether RETURNING has been noticed in a state. -/
def State.returning : State → Bool
  | .body _ _ _ returning | .closed _ _ returning => returning
  | _ => false

@[simp] theorem depth_settle (s : State) : s.settle.depth = s.depth := by
  fun_cases State.settle s with
  | case1 => rfl
  | case2 kind first => cases kind <;> rfl
  | case3 kind target => cases kind <;> rfl
  | case4 => rfl
  | case5 => rfl
  | case6 => rfl

@[simp] theorem returning_settle (s : State) : s.settle.returning = s.returning := by
  fun_cases State.settle s with
  | case1 => rfl
  | case2 kind first => cases kind <;> rfl
  | case3 kind target => cases kind <;> rfl
  | case4 => rfl
  | case5 => rfl
  | case6 => rfl

/-! ### One token -/

/-- What a token does to the depth and to the notice of RETURNING. -/
structure Accounts (s : State) (t : Token) (s' : State) : Prop where
  depth : s'.depth + closing [t] = s.depth + opening [t]
  returning : s'.returning = true ↔
    s.returning = true ∨ t.kind = .keyword .RETURNING ∧ s.depth = 0

/-- A token that is no parenthesis and not RETURNING changes nothing. -/
theorem Accounts.same {s s' : State} {t : Token} {k : Token.Kind} (hk : t.kind = k)
    (hd : s'.depth = s.depth) (hr : s'.returning = s.returning)
    (hp : k ≠ .leftParen ∧ k ≠ .rightParen ∧ k ≠ .keyword .RETURNING) : Accounts s t s' := by
  subst hk
  constructor
  · simp [hd, hp.1, hp.2.1]
  · simp [hr, hp.2.2]

theorem Accounts.opens {s s' : State} {t : Token} (hk : t.kind = .leftParen)
    (hd : s'.depth = s.depth + 1) (hr : s'.returning = s.returning) : Accounts s t s' := by
  constructor
  · simp [hk, hd]
  · simp [hk, hr]

theorem Accounts.closes {s s' : State} {t : Token} (hk : t.kind = .rightParen)
    (hd : s.depth = s'.depth + 1) (hr : s'.returning = s.returning) : Accounts s t s' := by
  constructor
  · simp [hk, hd]
  · simp [hk, hr]

theorem accounts_afterTarget {s s' : State} {t : Token} {kind : Kind} {target : Target}
    (hd : s.depth = 0) (hr : s.returning = false)
    (h : optionAfterTarget? kind target t.kind = some s') : Accounts s t s' := by
  revert h
  generalize hk : t.kind = k
  fun_cases optionAfterTarget? kind target k <;> intro h <;> cases h
  · exact .opens hk (congrArg (· + 1) hd.symm) hr.symm
  · exact .opens hk (congrArg (· + 1) hd.symm) hr.symm
  all_goals exact .same hk hd.symm hr.symm (by simp)

theorem accounts_option {s s' : State} {t : Token} (h : option? s t.kind = some s') :
    Accounts s t s' := by
  revert h
  generalize hk : t.kind = k
  fun_cases option? s k with
  | case3 => exact fun h => accounts_afterTarget rfl rfl (hk ▸ h)
  | case4 => exact fun h => accounts_afterTarget rfl rfl (hk ▸ h)
  | case7 => simp
  | _ => intro h; cases h; exact .same hk rfl rfl (by simp)

theorem accounts_identifier {s s' : State} {t : Token} (hi : t.kind.isIdentifier = true)
    (h : afterIdentifier? t.raw s = some s') : Accounts s t s' := by
  have hp : t.kind ≠ .leftParen ∧ t.kind ≠ .rightParen ∧ t.kind ≠ .keyword .RETURNING := by
    refine ⟨?_, ?_, ?_⟩ <;> intro hk <;> simp [hk, Token.Kind.isIdentifier] at hi
  revert h
  fun_cases afterIdentifier? t.raw s <;> intro h <;> cases h <;> exact .same rfl rfl rfl hp

theorem accounts_required {s s' : State} {t : Token} (h : required? s t = some s') :
    Accounts s t s' := by
  revert h
  unfold required?
  generalize hk : t.kind = k
  split
  case h_7 => intro h; cases h; exact .closes hk rfl rfl
  case h_12 => intro h; cases h; exact .opens hk rfl rfl
  case h_16 => exact accounts_identifier (by simp [hk, Token.Kind.isIdentifier])
  case h_17 => exact accounts_identifier (by simp [hk, Token.Kind.isIdentifier])
  case h_18 => simp
  all_goals intro h; cases h; exact .same hk rfl rfl (by simp)

theorem accounts_body {kind : Kind} {target : Target} {depth : Nat} {returning : Bool}
    {t : Token} {s' : State} (h : bodyStep kind target depth returning t.kind = .ok s') :
    Accounts (.body kind target depth returning) t s' := by
  revert h
  generalize hk : t.kind = k
  fun_cases bodyStep kind target depth returning k <;> intro h <;> cases h
  · exact .opens hk rfl rfl
  · exact .closes hk rfl rfl
  · exact ⟨by simp [State.depth, hk], by simp [State.returning, State.depth, hk]⟩
  · exact .same hk rfl rfl (by simp)
  · exact .same hk rfl rfl (by simp)
  case case8 ho hc hr _ => exact .same hk rfl rfl ⟨ho, hc, hr⟩

theorem accounts_advance {s s' : State} {t : Token} (h : advance s t = .ok s') :
    Accounts s t s' := by
  revert h
  fun_cases advance s t with
  | case1 => exact accounts_body
  | case2 => simp
  | case3 s _ _ u hu =>
    intro h
    cases h
    exact accounts_required hu
  | case4 => simp
  | case5 => simp

/-- A step keeps account of the parentheses and of RETURNING, in the head as well as in the body. -/
theorem accounts_step {s s' : State} {t : Token} (h : step s t = .ok s') : Accounts s t s' := by
  unfold step at h
  split at h
  · rename_i u hu
    cases h
    exact accounts_option hu
  · have ha := accounts_advance h
    exact ⟨by simpa using ha.depth, by simpa using ha.returning⟩

/-! ### Runs -/

theorem run_nil {s s' : State} : run s [] = .ok s' ↔ s' = s := by
  simp [run, pure, Except.pure, eq_comm]

theorem run_cons {s s' : State} {t : Token} {ts : List Token} :
    run s (t :: ts) = .ok s' ↔ ∃ u, step s t = .ok u ∧ run u ts = .ok s' := by
  cases h : step s t with
  | error f => simp [run, h, Except.mapError, bind, Except.bind]
  | ok u => simp [run, h, Except.mapError, bind, Except.bind]

theorem run_append {s s' : State} {ts us : List Token} :
    run s (ts ++ us) = .ok s' ↔ ∃ u, run s ts = .ok u ∧ run u us = .ok s' := by
  induction ts generalizing s with
  | nil => simp [run_nil]
  | cons t ts ih =>
    simp only [List.cons_append, run_cons, ih]
    constructor
    · intro hyp
      obtain ⟨v, hv, u, hu, hs⟩ := hyp
      exact ⟨u, ⟨v, hv, hu⟩, hs⟩
    · intro hyp
      obtain ⟨u, ⟨v, hv, hu⟩, hs⟩ := hyp
      exact ⟨v, hv, u, hu, hs⟩

/-- The depth of a state is the number of parentheses that the tokens read have left open. -/
theorem run_depth {s s' : State} {ts : List Token} (h : run s ts = .ok s') :
    s'.depth + closing ts = s.depth + opening ts := by
  induction ts generalizing s with
  | nil => simp [run_nil.1 h]
  | cons t ts ih =>
    obtain ⟨u, hu, hr⟩ := run_cons.1 h
    have ht := (accounts_step hu).depth
    have hts := ih hr
    simp only [closing_cons, opening_cons, closing_nil, opening_nil] at ht ⊢
    omega

/-- RETURNING stands among tokens where all parentheses are closed, `depth` of which are open in
front of the tokens. -/
def Returns (depth : Nat) (ts : List Token) : Prop :=
  ∃ before t after, ts = before ++ t :: after ∧ t.kind = .keyword .RETURNING ∧
    closing before = depth + opening before

theorem returns_cons {d e : Nat} {t : Token} {ts : List Token}
    (h : e + closing [t] = d + opening [t]) :
    Returns d (t :: ts) ↔ (t.kind = .keyword .RETURNING ∧ d = 0) ∨ Returns e ts := by
  simp only [closing_cons, opening_cons, closing_nil, opening_nil] at h
  constructor
  · intro hyp
    obtain ⟨before, u, after, hs, hk, hc⟩ := hyp
    cases before with
    | nil =>
      simp only [List.nil_append, List.cons.injEq] at hs
      exact .inl ⟨hs.1 ▸ hk, by simpa using hc.symm⟩
    | cons v before =>
      simp only [List.cons_append, List.cons.injEq] at hs
      obtain ⟨rfl, hs⟩ := hs
      simp only [closing_cons, opening_cons] at hc
      exact .inr ⟨before, u, after, hs, hk, by omega⟩
  · intro hyp
    rcases hyp with ⟨hk, rfl⟩ | ⟨before, u, after, rfl, hk, hc⟩
    · exact ⟨[], t, ts, rfl, hk, rfl⟩
    · refine ⟨t :: before, u, after, rfl, hk, ?_⟩
      simp only [closing_cons, opening_cons]
      omega

theorem run_returning {s s' : State} {ts : List Token} (h : run s ts = .ok s') :
    s'.returning = true ↔ s.returning = true ∨ Returns s.depth ts := by
  induction ts generalizing s with
  | nil =>
    have hn : ¬ Returns s.depth [] := by simp [Returns]
    simp [run_nil.1 h, hn]
  | cons t ts ih =>
    obtain ⟨u, hu, hr⟩ := run_cons.1 h
    have ht := accounts_step hu
    rw [ih hr, ht.returning, returns_cons ht.depth, or_assoc]

theorem finish_returning {s : State} {st : Statement} (h : finish s = .ok st) :
    st.returning = s.returning := by
  rw [← returning_settle]
  unfold finish at h
  split at h <;> rename_i hs <;> cases h <;> simp [hs, State.returning]

end Reader

theorem read_ok {sql : Text} {st : Statement} :
    read sql = .ok st ↔
      ∃ s, Reader.run .start (Token.lexemes sql) = .ok s ∧ Reader.finish s = .ok st := by
  unfold read
  cases Reader.run .start (Token.lexemes sql) with
  | error r => simp [bind, Except.bind]
  | ok s => cases h : Reader.finish s <;> simp [bind, Except.bind, Except.mapError, h]

/-- Of a text that is read as a statement, RETURNING is noticed exactly where the word stands as a
token of its own behind as many closing as opening parentheses. -/
theorem returning_iff_of_read {sql : Text} {st : Statement} (h : read sql = .ok st) :
    st.returning = true ↔
      ∃ before t after, Token.lexemes sql = before ++ t :: after ∧
        t.kind = .keyword .RETURNING ∧ opening before = closing before := by
  obtain ⟨s, hr, hf⟩ := read_ok.1 h
  rw [Reader.finish_returning hf, Reader.run_returning hr]
  simp [Reader.Returns, Reader.State.returning, Reader.State.depth, eq_comm]

/-- The word counts neither in a string nor in a comment or between parentheses. -/
theorem returning_behind_hidden_words :
    ∃ before t after,
      Token.lexemes
        "INSERT INTO t (a) VALUES ('RETURNING', (b)) /* RETURNING */ RETURNING a".toList =
          before ++ t :: after ∧
        t.kind = .keyword .RETURNING ∧ opening before = closing before := by
  have h : read "INSERT INTO t (a) VALUES ('RETURNING', (b)) /* RETURNING */ RETURNING a".toList =
      .ok ⟨.insert, none, "t".toList, true⟩ := by decide +kernel
  exact (returning_iff_of_read h).1 rfl

end GeneratedKeys.Statement
