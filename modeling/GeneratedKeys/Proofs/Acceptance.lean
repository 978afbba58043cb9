import GeneratedKeys.Proofs.Grammar

/-!
# Reading accepts the grammar

What can be read from a state on is worked out state by state, from the body back to the start. An
optional part gives two ways to go on, and the state behind it tells which of them a list of tokens
takes. Put together, reading accepts the statements of the grammar and nothing else.
-/
namespace GeneratedKeys.Statement
namespace Reader

/-- From a state on, tokens can be read as the rest of a statement on a table. -/
def Reads (s : State) (ts : List Token) (kind : Kind) (target : Target) : Prop :=
  ∃ s' returning, run s ts = .ok s' ∧
    finish s' = .ok ⟨kind, target.schema, target.table, returning⟩

section
variable {s : State} {t : Token} {ts : List Token} {k kind : Kind} {tg target : Target}

theorem reads_nil : Reads s [] k tg ↔
    ∃ returning, finish s = .ok ⟨k, tg.schema, tg.table, returning⟩ := by
  simp [Reads, run_nil]

theorem reads_cons : Reads s (t :: ts) k tg ↔ ∃ u, step s t = .ok u ∧ Reads u ts k tg := by
  simp only [Reads, run_cons]
  constructor
  · intro hyp
    obtain ⟨s', r, ⟨u, hu, hr⟩, hf⟩ := hyp
    exact ⟨u, hu, s', r, hr, hf⟩
  · intro hyp
    obtain ⟨u, hu, s', r, hr, hf⟩ := hyp
    exact ⟨s', r, ⟨u, hu, hr⟩, hf⟩

theorem reads_cons_ok {u : State} (h : step s t = .ok u) :
    Reads s (t :: ts) k tg ↔ Reads u ts k tg := by
  simp [reads_cons, h]

/-! ### The body -/

theorem reads_closed {returning : Bool} :
    Reads (.closed kind target returning) ts k tg ↔ k = kind ∧ tg = target ∧ ts = [] := by
  cases ts with
  | nil =>
    obtain ⟨schema, table⟩ := tg
    obtain ⟨schema', table'⟩ := target
    simp [reads_nil, finish, State.settle, eq_comm]
  | cons t ts => simp [reads_cons, step, option?, advance, State.settle]

theorem step_body {depth : Nat} {returning : Bool} :
    step (.body kind target depth returning) t = bodyStep kind target depth returning t.kind :=
  rfl

theorem reads_body {depth : Nat} {returning : Bool} :
    Reads (.body kind target depth returning) ts k tg ↔
      k = kind ∧ tg = target ∧ IsClean ts ∧ IsBody depth ts := by
  induction ts generalizing depth returning with
  | nil =>
    obtain ⟨schema, table⟩ := tg
    obtain ⟨schema', table'⟩ := target
    cases depth <;> simp [reads_nil, finish, State.settle, isBody_nil, eq_comm]
  | cons t ts ih =>
    rw [reads_cons, step_body, isClean_cons]
    generalize hk : t.kind = kd
    fun_cases bodyStep kind target depth returning kd with
    | case1 m => simp
    | case2 =>
      rw [isBody_cons (e := depth + 1) (by simp [hk])]
      simp [ih, hk]
    | case3 => simp [not_isBody_rightParen hk]
    | case4 d =>
      rw [isBody_cons (e := d) (by simp [hk])]
      simp [ih, hk]
    | case5 =>
      rw [isBody_cons (e := depth) (by simp [hk])]
      simp [ih, hk]
    | case6 =>
      rw [isBody_cons (e := 0) (by simp [hk])]
      have hn : IsClean [] ∧ IsBody 0 [] := ⟨isClean_nil, isBody_nil.2 rfl⟩
      simp only [Except.ok.injEq, exists_eq_left', reads_closed, hk]
      grind
    | case7 _ hd =>
      rw [isBody_cons (e := depth) (by simp [hk])]
      simp [ih, hk, hd]
    | case8 _ _ hm ho hc _ hs =>
      change kd ≠ .leftParen at ho
      change kd ≠ .rightParen at hc
      change kd ≠ .semicolon at hs
      rw [isBody_cons (e := depth) (by simp [hk, ho, hc])]
      simp [ih, hk, hs, show ∀ m, kd ≠ .malformed m from hm]

/-! ### States with one way to go on -/

/-- The one kind of token that a state can go on with, and the state after it, where there is one
such kind and it is no identifier. -/
def State.sole? : State → Option (Token.Kind × State)
  | .updateOr => some (.keyword .INSERT, .into .updateOrInsert)
  | .into kind => some (.keyword .INTO, .name kind)
  | .from => some (.keyword .FROM, .name .delete)
  | .source .updateOrInsert target => some (.keyword .VALUES, .values .updateOrInsert target)
  | .values kind target => some (.leftParen, .body kind target 1 false)
  | .defaults kind target => some (.keyword .VALUES, .body kind target 0 false)
  | .clause .update target => some (.keyword .SET, .assignee .update target)
  | .equals kind target => some (.eq, .body kind target 0 false)
  | _ => none

theorem step_sole {s' : State} {e : Token.Kind} (h : s.sole? = some (e, s')) (t : Token) :
    step s t = if t.kind = e then .ok s' else .error (.unexpected s.expected t.kind) := by
  revert h
  fun_cases State.sole? s <;> intro h <;> cases h <;> cases hk : t.kind with
  | keyword w =>
    cases w <;> simp [step, option?, advance, required?, State.settle, State.expected, hk]
  | _ => simp [step, option?, advance, required?, afterIdentifier?, State.settle, State.expected, hk]

theorem finish_sole {s' : State} {e : Token.Kind} (h : s.sole? = some (e, s')) :
    finish s = .error (.unexpected s.expected .eof) := by
  revert h
  fun_cases State.sole? s <;> intro h <;> cases h <;> rfl

theorem reads_sole {s' : State} {e : Token.Kind} (h : s.sole? = some (e, s')) :
    Reads s ts k tg ↔ ∃ t rest, ts = t :: rest ∧ t.kind = e ∧ Reads s' rest k tg := by
  cases ts with
  | nil => simp [reads_nil, finish_sole h]
  | cons t ts =>
    rw [reads_cons, step_sole h]
    by_cases hk : t.kind = e <;> simp [hk, and_assoc]

theorem step_identifier {s' : State} (h : afterIdentifier? t.raw s = some s') :
    step s t =
      if t.kind.isIdentifier then .ok s' else .error (.unexpected s.expected t.kind) := by
  revert h
  generalize hr : t.raw = raw
  fun_cases afterIdentifier? raw s <;> intro h <;> cases h <;> cases hk : t.kind <;>
    simp [step, option?, advance, required?, afterIdentifier?, State.settle, State.expected,
      Token.Kind.isIdentifier, hk, hr]

theorem finish_identifier {s' : State} {raw : Text} (h : afterIdentifier? raw s = some s') :
    finish s = .error (.unexpected s.expected .eof) := by
  revert h
  fun_cases afterIdentifier? raw s <;> intro h <;> cases h <;> rfl

theorem reads_identifier {f : Text → State} (h : ∀ raw, afterIdentifier? raw s = some (f raw)) :
    Reads s ts k tg ↔
      ∃ t rest, ts = t :: rest ∧ t.kind.isIdentifier = true ∧ Reads (f t.raw) rest k tg := by
  cases ts with
  | nil => simp [reads_nil, finish_identifier (h [])]
  | cons t ts =>
    rw [reads_cons, step_identifier (h t.raw)]
    by_cases hk : t.kind.isIdentifier = true <;> simp [hk, and_assoc]

/-! ### States with an optional part -/

@[simp] theorem settle_settle : s.settle.settle = s.settle := by
  cases s with
  | named kind first => cases kind <;> rfl
  | located kind target => cases kind <;> rfl
  | clause kind target => cases kind <;> rfl
  | _ => rfl

/-- A state without optional parts of its own behind it goes on with its optional part or as the
state without it. -/
theorem reads_settle (h : ∀ e, option? s.settle e = none) :
    Reads s ts k tg ↔
      (∃ t rest s', ts = t :: rest ∧ option? s t.kind = some s' ∧ Reads s' rest k tg) ∨
      ((∀ t rest, ts = t :: rest → option? s t.kind = none) ∧ Reads s.settle ts k tg) := by
  cases ts with
  | nil => simp [reads_nil, finish]
  | cons t ts =>
    rw [reads_cons, reads_cons]
    cases ho : option? s t.kind with
    | some s' => simp [step, ho, and_assoc]
    | none => simp [step, ho, h]

/-! ### The table's name -/

theorem reads_qualified {schema : Text} : Reads (.qualified kind schema) ts k tg ↔
    ∃ t rest, ts = t :: rest ∧ t.kind.isIdentifier = true ∧
      Reads (.located kind ⟨some schema, t.raw⟩) rest k tg :=
  reads_identifier (f := fun raw => .located kind ⟨some schema, raw⟩) fun _ => rfl

theorem step_named {first : Text} : step (.named kind first) t =
    if t.kind = .dot then .ok (.qualified kind first)
    else step (.located kind ⟨none, first⟩) t := by
  by_cases hk : t.kind = .dot
  · simp [step, option?, hk]
  · have ho : option? (.named kind first) t.kind = option? (.located kind ⟨none, first⟩) t.kind := by
      cases he : t.kind <;> simp_all [option?]
    rw [if_neg hk, step, step, ho]
    rfl

theorem reads_named {first : Text} : Reads (.named kind first) ts k tg ↔
    (∃ d rest, ts = d :: rest ∧ d.kind = .dot ∧ Reads (.qualified kind first) rest k tg) ∨
      (¬ StartsWith .dot ts ∧ Reads (.located kind ⟨none, first⟩) ts k tg) := by
  cases ts with
  | nil => simp [reads_nil, finish, State.settle, not_startsWith_nil]
  | cons t ts =>
    rw [reads_cons, step_named, startsWith_cons]
    by_cases hk : t.kind = .dot
    · simp [hk, and_assoc]
    · simp [hk, reads_cons, and_assoc]

theorem reads_name : Reads (.name kind) ts k tg ↔
    ∃ schema table name rest, ts = name ++ rest ∧ IsName schema table name ∧
      (schema = none → ¬ StartsWith .dot rest) ∧
      Reads (.located kind ⟨schema, table⟩) rest k tg := by
  rw [reads_identifier (f := State.named kind) fun _ => rfl]
  constructor
  · intro hyp
    obtain ⟨t, rest, rfl, ht, hr⟩ := hyp
    rcases reads_named.1 hr with ⟨d, rest, rfl, hd, hr⟩ | ⟨hd, hr⟩
    · obtain ⟨u, rest, rfl, hu, hr⟩ := reads_qualified.1 hr
      exact ⟨_, _, [t, d, u], rest, rfl, .qualified ht hd hu, by simp, hr⟩
    · exact ⟨_, _, [t], rest, rfl, .plain ht, fun _ => hd, hr⟩
  · intro hyp
    obtain ⟨schema, table, name, rest, rfl, hn, hd, hr⟩ := hyp
    cases hn with
    | plain ht => exact ⟨_, rest, rfl, ht, reads_named.2 (.inr ⟨hd rfl, hr⟩)⟩
    | qualified hs hdot ht =>
      have hq := reads_qualified.2 ⟨_, rest, rfl, ht, hr⟩
      exact ⟨_, _, rfl, hs, reads_named.2 (.inl ⟨_, _, rfl, hdot, hq⟩)⟩

/-! ### The column list -/

theorem reads_columnEnd : Reads (.columnEnd kind target) ts k tg ↔
    ∃ t rest, ts = t :: rest ∧
      ((t.kind = .comma ∧ Reads (.column kind target) rest k tg) ∨
        (t.kind = .rightParen ∧ Reads (.source kind target) rest k tg)) := by
  cases ts with
  | nil => simp [reads_nil, finish, State.settle]
  | cons t ts =>
    rw [reads_cons]
    cases hk : t.kind <;>
      simp [step, option?, advance, required?, afterIdentifier?, State.settle, hk, and_assoc]

theorem reads_column_of_names {names : List Token} (hn : IsNames names) {c : Token}
    {rest : List Token} (hc : c.kind = .rightParen) (hr : Reads (.source kind target) rest k tg) :
    Reads (.column kind target) (names ++ c :: rest) k tg := by
  induction hn with
  | one ht =>
    refine (reads_identifier fun _ => rfl).2 ⟨_, _, rfl, ht, ?_⟩
    exact reads_columnEnd.2 ⟨c, rest, rfl, .inr ⟨hc, hr⟩⟩
  | more ht hs _ ih =>
    refine (reads_identifier fun _ => rfl).2 ⟨_, _, rfl, ht, ?_⟩
    exact reads_columnEnd.2 ⟨_, _, rfl, .inl ⟨hs, ih⟩⟩

theorem exists_names_of_reads_column {ts : List Token} (h : Reads (.column kind target) ts k tg) :
    ∃ names c rest, ts = names ++ c :: rest ∧ IsNames names ∧ c.kind = .rightParen ∧
      Reads (.source kind target) rest k tg := by
  obtain ⟨t, rest, rfl, ht, hr⟩ := (reads_identifier fun _ => rfl).1 h
  obtain ⟨u, rest, rfl, ⟨hu, hr⟩ | ⟨hu, hr⟩⟩ := reads_columnEnd.1 hr
  · obtain ⟨names, c, rest, rfl, hn, hc, hr⟩ := exists_names_of_reads_column hr
    exact ⟨t :: u :: names, c, rest, rfl, .more ht hu hn, hc, hr⟩
  · exact ⟨[t], u, rest, rfl, .one ht, hu, hr⟩
termination_by ts.length

/-! ### Rows to insert -/

theorem reads_source : Reads (.source .insert target) ts k tg ↔
    ∃ t rest, ts = t :: rest ∧
      ((t.kind = .keyword .VALUES ∧ Reads (.values .insert target) rest k tg) ∨
        (t.kind = .keyword .DEFAULT ∧ Reads (.defaults .insert target) rest k tg) ∨
        ((t.kind = .keyword .SELECT ∨ t.kind = .keyword .WITH) ∧
          Reads (.body .insert target 0 false) rest k tg)) := by
  cases ts with
  | nil => simp [reads_nil, finish, State.settle]
  | cons t ts =>
    rw [reads_cons]
    cases hk : t.kind with
    | keyword w =>
      cases w <;> simp [step, option?, advance, required?, State.settle, hk, and_assoc]
    | _ =>
      simp [step, option?, advance, required?, afterIdentifier?, State.settle, hk, and_assoc]

theorem not_reads_source_leftParen (ht : t.kind = .leftParen) :
    ¬ Reads (.source kind target) (t :: ts) k tg := by
  rw [reads_cons]
  cases kind <;> simp [step, option?, advance, required?, State.settle, ht]

theorem reads_located_rows (h : afterTarget kind target = .source kind target) :
    Reads (.located kind target) ts k tg ↔
      ∃ columns rest, ts = columns ++ rest ∧ IsColumns columns ∧
        Reads (.source kind target) rest k tg := by
  have hs : (State.located kind target).settle = .source kind target := h
  have hk : ∀ e, option? (.located kind target) e =
      if e = .leftParen then some (.column kind target) else none := by
    intro e
    cases kind <;> cases e <;> simp_all [option?, optionAfterTarget?, afterTarget]
  rw [reads_settle (by rw [hs]; intro e; rfl), hs]
  constructor
  · intro hyp
    rcases hyp with ⟨t, rest, s', rfl, ho, hr⟩ | ⟨-, hr⟩
    · rw [hk] at ho
      split at ho
      · rename_i ht
        cases ho
        obtain ⟨names, c, rest, rfl, hn, hc, hr⟩ := exists_names_of_reads_column hr
        exact ⟨t :: (names ++ [c]), rest, by simp, .listed ht hn hc, hr⟩
      · cases ho
    · exact ⟨[], ts, rfl, .none, hr⟩
  · intro hyp
    obtain ⟨columns, rest, rfl, hc, hr⟩ := hyp
    cases hc with
    | none =>
      refine .inr ⟨?_, hr⟩
      intro t rest hyp
      subst hyp
      rw [hk, if_neg]
      exact fun ht => not_reads_source_leftParen ht hr
    | listed ho hn hc =>
      refine .inl ⟨_, _, _, rfl, by rw [hk, if_pos ho], ?_⟩
      simpa using reads_column_of_names hn hc hr

/-! ### Aliases -/

theorem reads_clause_delete : Reads (.clause .delete target) ts k tg ↔
    Reads (.body .delete target 0 false) ts k tg := by
  rw [reads_settle fun _ => rfl]
  simp [option?, State.settle]

theorem reads_afterTarget (hk : kind = .update ∨ kind = .delete) :
    Reads (afterTarget kind target) ts k tg ↔ Reads (.clause kind target) ts k tg := by
  rcases hk with rfl | rfl
  · rfl
  · exact reads_clause_delete.symm

theorem reads_clause_of_identifier (hk : kind = .update ∨ kind = .delete)
    (ht : t.kind.isIdentifier = true) (h : Reads (.clause kind target) (t :: ts) k tg) :
    Reads (.clause kind target) ts k tg := by
  rcases hk with rfl | rfl
  · obtain ⟨u, rest, he, hu, -⟩ := (reads_sole rfl).1 h
    simp only [List.cons.injEq] at he
    simp [he.1, hu, Token.Kind.isIdentifier] at ht
  · rw [reads_clause_delete] at h ⊢
    refine (reads_cons_ok ?_).1 h
    rw [step_body]
    cases he : t.kind <;> simp_all [bodyStep, Token.Kind.isIdentifier]

theorem option_located (hk : kind = .update ∨ kind = .delete) (e : Token.Kind) :
    option? (.located kind target) e =
      if e = .keyword .AS then some (.byname kind target)
      else if e.isIdentifier then some (.clause kind target) else none := by
  rcases hk with rfl | rfl <;> cases e with
  | keyword w => cases w <;> simp [option?, optionAfterTarget?, Token.Kind.isIdentifier]
  | _ => simp [option?, optionAfterTarget?, Token.Kind.isIdentifier]

theorem reads_alias : Reads (.byname kind target) ts k tg ↔
    ∃ t rest, ts = t :: rest ∧ t.kind.isIdentifier = true ∧
      Reads (.clause kind target) rest k tg :=
  reads_identifier (f := fun _ => .clause kind target) fun _ => rfl

theorem reads_located_alias (hk : kind = .update ∨ kind = .delete) :
    Reads (.located kind target) ts k tg ↔
      ∃ byname rest, ts = byname ++ rest ∧ IsAlias byname ∧
        (byname = [] → ¬ StartsWith (.keyword .AS) rest) ∧
        Reads (.clause kind target) rest k tg := by
  have hs : ∀ e, option? (State.located kind target).settle e = none := by
    rcases hk with rfl | rfl <;> exact fun _ => rfl
  rw [reads_settle hs]
  change _ ∨ (_ ∧ Reads (afterTarget kind target) ts k tg) ↔ _
  rw [reads_afterTarget hk]
  constructor
  · intro hyp
    rcases hyp with ⟨t, rest, s', rfl, ho, hr⟩ | ⟨hn, hr⟩
    · rw [option_located hk] at ho
      split at ho
      · rename_i ha
        cases ho
        obtain ⟨u, rest, rfl, hu, hr⟩ := reads_alias.1 hr
        exact ⟨[t, u], rest, rfl, .marked ha hu, by simp, hr⟩
      · split at ho
        · rename_i hi
          cases ho
          exact ⟨[t], rest, rfl, .plain hi, by simp, hr⟩
        · cases ho
    · refine ⟨[], ts, rfl, .none, ?_, hr⟩
      intro _ hyp
      obtain ⟨t, rest, rfl, ha⟩ := hyp
      have hn := hn t rest rfl
      simp [option_located hk, ha] at hn
  · intro hyp
    obtain ⟨byname, rest, rfl, ha, hn, hr⟩ := hyp
    cases ha with
    | none =>
      cases rest with
      | nil => exact .inr ⟨by simp, hr⟩
      | cons t rest =>
        have ht : t.kind ≠ .keyword .AS := by simpa using hn rfl
        by_cases hi : t.kind.isIdentifier = true
        · refine .inl ⟨t, rest, .clause kind target, rfl, ?_, reads_clause_of_identifier hk hi hr⟩
          rw [option_located hk, if_neg ht, if_pos hi]
        · refine .inr ⟨?_, hr⟩
          intro u rest hyp
          obtain ⟨rfl, rfl⟩ := hyp
          rw [option_located hk, if_neg ht, if_neg hi]
    | plain hi =>
      refine .inl ⟨_, _, .clause kind target, rfl, ?_, hr⟩
      rw [option_located hk, if_neg _, if_pos hi]
      intro he
      simp [he, Token.Kind.isIdentifier] at hi
    | marked ha hi =>
      refine .inl ⟨_, _, .byname kind target, rfl, ?_, reads_alias.2 ⟨_, _, rfl, hi, hr⟩⟩
      rw [option_located hk, if_pos ha]

/-! ### The column to set -/

theorem reads_field : Reads (.field kind target) ts k tg ↔
    ∃ t rest, ts = t :: rest ∧ t.kind.isIdentifier = true ∧
      Reads (.equals kind target) rest k tg :=
  reads_identifier (f := fun _ => .equals kind target) fun _ => rfl

theorem reads_equals : Reads (.equals kind target) ts k tg ↔
    ∃ t rest, ts = t :: rest ∧ t.kind = .eq ∧ Reads (.body kind target 0 false) rest k tg :=
  reads_sole rfl

theorem option_assigned (e : Token.Kind) : option? (.assigned kind target) e =
    if e = .dot then some (.field kind target) else none := by
  cases e <;> simp [option?]

theorem reads_assignee : Reads (.assignee kind target) ts k tg ↔
    ∃ qualifier column name rest, ts = name ++ rest ∧ IsName qualifier column name ∧
      Reads (.equals kind target) rest k tg := by
  rw [reads_identifier (f := fun _ => .assigned kind target) fun _ => rfl]
  have hs : ∀ e, option? (State.assigned kind target).settle e = none := fun _ => rfl
  constructor
  · intro hyp
    obtain ⟨t, rest, rfl, ht, hr⟩ := hyp
    rcases (reads_settle hs).1 hr with ⟨d, rest, s', rfl, ho, hr⟩ | ⟨-, hr⟩
    · rw [option_assigned] at ho
      split at ho
      · rename_i hd
        cases ho
        obtain ⟨u, rest, rfl, hu, hr⟩ := reads_field.1 hr
        exact ⟨_, _, [t, d, u], rest, rfl, .qualified ht hd hu, hr⟩
      · cases ho
    · exact ⟨_, _, [t], rest, rfl, .plain ht, hr⟩
  · intro hyp
    obtain ⟨qualifier, column, name, rest, rfl, hn, hr⟩ := hyp
    cases hn with
    | plain ht =>
      refine ⟨_, rest, rfl, ht, (reads_settle hs).2 (.inr ⟨?_, hr⟩)⟩
      obtain ⟨e, rest, rfl, he, -⟩ := reads_equals.1 hr
      intro u rest hyp
      obtain ⟨rfl, rfl⟩ := hyp
      simp [option_assigned, he]
    | qualified hq hd ht =>
      refine ⟨_, _, rfl, hq, (reads_settle hs).2 (.inl ⟨_, _, .field kind target, rfl, ?_, ?_⟩)⟩
      · rw [option_assigned, if_pos hd]
      · exact reads_field.2 ⟨_, rest, rfl, ht, hr⟩

/-! ### The first words -/

theorem reads_start : Reads .start ts k tg ↔
    ∃ t rest, ts = t :: rest ∧
      ((t.kind = .keyword .INSERT ∧ Reads (.into .insert) rest k tg) ∨
        (t.kind = .keyword .UPDATE ∧ Reads .update rest k tg) ∨
        (t.kind = .keyword .DELETE ∧ Reads .from rest k tg)) := by
  cases ts with
  | nil => simp [reads_nil, finish, State.settle]
  | cons t ts =>
    rw [reads_cons]
    cases hk : t.kind with
    | keyword w =>
      cases w <;> simp [step, option?, advance, required?, State.settle, hk, and_assoc]
    | _ =>
      simp [step, option?, advance, required?, afterIdentifier?, State.settle, hk, and_assoc]

theorem option_update (e : Token.Kind) : option? .update e =
    if e = .keyword .OR then some .updateOr else none := by
  cases e with
  | keyword w => cases w <;> simp [option?]
  | _ => simp [option?]

theorem reads_update : Reads .update ts k tg ↔
    (∃ t rest, ts = t :: rest ∧ t.kind = .keyword .OR ∧ Reads .updateOr rest k tg) ∨
      Reads (.name .update) ts k tg := by
  rw [reads_settle fun _ => rfl]
  constructor
  · intro hyp
    rcases hyp with ⟨t, rest, s', rfl, ho, hr⟩ | ⟨-, hr⟩
    · rw [option_update] at ho
      split at ho
      · rename_i ht
        cases ho
        exact .inl ⟨t, rest, rfl, ht, hr⟩
      · cases ho
    · exact .inr hr
  · intro hyp
    rcases hyp with ⟨t, rest, rfl, ht, hr⟩ | hr
    · exact .inl ⟨t, rest, .updateOr, rfl, by rw [option_update, if_pos ht], hr⟩
    · refine .inr ⟨?_, hr⟩
      obtain ⟨t, rest, rfl, ht, -⟩ := (reads_identifier (f := .named .update) fun _ => rfl).1 hr
      intro u rest hyp
      obtain ⟨rfl, rfl⟩ := hyp
      rw [option_update, if_neg]
      intro he
      simp [he, Token.Kind.isIdentifier] at ht

theorem reads_into : Reads (.into kind) ts k tg ↔
    ∃ t rest, ts = t :: rest ∧ t.kind = .keyword .INTO ∧ Reads (.name kind) rest k tg :=
  reads_sole rfl

end

/-! ### Whole statements -/

section
variable {ts : List Token} {kind : Kind} {schema : Option Text} {table : Text}

/-- What is read ends in a body behind a head of the grammar. -/
def IsHeaded (kind : Kind) (schema : Option Text) (table : Text) (ts : List Token) : Prop :=
  ∃ depth head body, ts = head ++ body ∧ Head kind schema table depth head body ∧
    IsClean body ∧ IsBody depth body

theorem isHeaded_of_insert {t : Token} (ht : t.kind = .keyword .INSERT)
    (h : Reads (.into .insert) ts kind ⟨schema, table⟩) : IsHeaded kind schema table (t :: ts) := by
  obtain ⟨u, rest, rfl, hu, h⟩ := reads_into.1 h
  obtain ⟨s, n, name, rest, rfl, hn, -, h⟩ := reads_name.1 h
  obtain ⟨columns, rest, rfl, hc, h⟩ := (reads_located_rows rfl).1 h
  obtain ⟨v, rest, rfl, ⟨hv, h⟩ | ⟨hv, h⟩ | ⟨hv, h⟩⟩ := reads_source.1 h
  · obtain ⟨w, body, rfl, hw, h⟩ := (reads_sole rfl).1 h
    obtain ⟨rfl, he, hl, hb⟩ := reads_body.1 h
    cases he
    exact ⟨1, [t, u] ++ name ++ columns ++ [v, w], body, by simp,
      .values (by simp [ht, hu]) hn hc (by simp [hv, hw]), hl, hb⟩
  · obtain ⟨w, body, rfl, hw, h⟩ := (reads_sole rfl).1 h
    obtain ⟨rfl, he, hl, hb⟩ := reads_body.1 h
    cases he
    exact ⟨0, [t, u] ++ name ++ columns ++ [v, w], body, by simp,
      .defaults (by simp [ht, hu]) hn hc (by simp [hv, hw]), hl, hb⟩
  · have hs : step (.body .insert ⟨s, n⟩ 0 false) v = .ok (.body .insert ⟨s, n⟩ 0 false) := by
      rcases hv with hv | hv <;> rw [step_body, hv] <;> rfl
    obtain ⟨rfl, he, hl, hb⟩ := reads_body.1 ((reads_cons_ok hs).2 h)
    cases he
    exact ⟨0, [t, u] ++ name ++ columns, v :: rest, by simp,
      .query (by simp [ht, hu]) hn hc (by simpa using hv), hl, hb⟩

theorem isHeaded_of_updateOr {t u : Token} (ht : t.kind = .keyword .UPDATE)
    (hu : u.kind = .keyword .OR) (h : Reads .updateOr ts kind ⟨schema, table⟩) :
    IsHeaded kind schema table (t :: u :: ts) := by
  obtain ⟨v, rest, rfl, hv, h⟩ := (reads_sole rfl).1 h
  obtain ⟨w, rest, rfl, hw, h⟩ := reads_into.1 h
  obtain ⟨s, n, name, rest, rfl, hn, -, h⟩ := reads_name.1 h
  obtain ⟨columns, rest, rfl, hc, h⟩ := (reads_located_rows rfl).1 h
  obtain ⟨x, rest, rfl, hx, h⟩ := (reads_sole rfl).1 h
  obtain ⟨y, body, rfl, hy, h⟩ := (reads_sole rfl).1 h
  obtain ⟨rfl, he, hl, hb⟩ := reads_body.1 h
  cases he
  exact ⟨1, [t, u, v, w] ++ name ++ columns ++ [x, y], body, by simp,
    .updateOrInsert (by simp [ht, hu, hv, hw]) hn hc (by simp [hx, hy]), hl, hb⟩

theorem isHeaded_of_update {t : Token} (ht : t.kind = .keyword .UPDATE)
    (h : Reads (.name .update) ts kind ⟨schema, table⟩) : IsHeaded kind schema table (t :: ts) := by
  obtain ⟨s, n, name, rest, rfl, hn, -, h⟩ := reads_name.1 h
  obtain ⟨byname, rest, rfl, ha, -, h⟩ := (reads_located_alias (.inl rfl)).1 h
  obtain ⟨u, rest, rfl, hu, h⟩ := (reads_sole rfl).1 h
  obtain ⟨q, c, assigned, rest, rfl, hc, h⟩ := reads_assignee.1 h
  obtain ⟨e, body, rfl, he, h⟩ := reads_equals.1 h
  obtain ⟨rfl, hk, hl, hb⟩ := reads_body.1 h
  cases hk
  exact ⟨0, [t] ++ name ++ byname ++ [u] ++ assigned ++ [e], body, by simp,
    .update (by simp [ht]) hn ha (by simp [hu]) hc (by simp [he]), hl, hb⟩

theorem isHeaded_of_delete {t : Token} (ht : t.kind = .keyword .DELETE)
    (h : Reads .from ts kind ⟨schema, table⟩) : IsHeaded kind schema table (t :: ts) := by
  obtain ⟨u, rest, rfl, hu, h⟩ := (reads_sole rfl).1 h
  obtain ⟨s, n, name, rest, rfl, hn, hd, h⟩ := reads_name.1 h
  obtain ⟨byname, body, rfl, ha, hs, h⟩ := (reads_located_alias (.inr rfl)).1 h
  obtain ⟨rfl, he, hl, hb⟩ := reads_body.1 (reads_clause_delete.1 h)
  cases he
  exact ⟨0, [t, u] ++ name ++ byname, body, by simp,
    .delete (by simp [ht, hu]) hn ha hd hs, hl, hb⟩

theorem isHeaded_of_reads (h : Reads .start ts kind ⟨schema, table⟩) :
    IsHeaded kind schema table ts := by
  obtain ⟨t, rest, rfl, ⟨ht, h⟩ | ⟨ht, h⟩ | ⟨ht, h⟩⟩ := reads_start.1 h
  · exact isHeaded_of_insert ht h
  · rcases reads_update.1 h with ⟨u, rest, rfl, hu, h⟩ | h
    · exact isHeaded_of_updateOr ht hu h
    · exact isHeaded_of_update ht h
  · exact isHeaded_of_delete ht h

/-- Where no body can follow a table's name, no dot can. -/
theorem reads_name_append {k : Kind} {tg : Target} {name rest : List Token} (hk : kind ≠ .delete)
    (hn : IsName schema table name) (hr : Reads (.located kind ⟨schema, table⟩) rest k tg) :
    Reads (.name kind) (name ++ rest) k tg := by
  refine reads_name.2 ⟨_, _, name, rest, rfl, hn, ?_, hr⟩
  intro _ hyp
  obtain ⟨t, rest, rfl, ht⟩ := hyp
  rw [reads_cons] at hr
  cases kind <;>
    simp_all [step, option?, optionAfterTarget?, advance, required?, State.settle, afterTarget]

theorem reads_name_columns {k : Kind} {tg : Target} {name columns rest : List Token}
    (hk : kind = .insert ∨ kind = .updateOrInsert) (hn : IsName schema table name)
    (hc : IsColumns columns) (hr : Reads (.source kind ⟨schema, table⟩) rest k tg) :
    Reads (.name kind) (name ++ (columns ++ rest)) k tg := by
  rcases hk with rfl | rfl
  · exact reads_name_append (by simp) hn ((reads_located_rows rfl).2 ⟨_, _, rfl, hc, hr⟩)
  · exact reads_name_append (by simp) hn ((reads_located_rows rfl).2 ⟨_, _, rfl, hc, hr⟩)

theorem reads_insert {k : Kind} {tg : Target} {into name columns rest : List Token}
    (hi : into.map Token.kind = [.keyword .INSERT, .keyword .INTO])
    (hn : IsName schema table name) (hc : IsColumns columns)
    (hr : Reads (.source .insert ⟨schema, table⟩) rest k tg) :
    Reads .start (into ++ name ++ columns ++ rest) k tg := by
  simp only [List.map_eq_cons_iff, List.map_eq_nil_iff] at hi
  obtain ⟨t, _, rfl, ht, u, _, rfl, hu, rfl⟩ := hi
  simp only [List.append_assoc, List.cons_append, List.nil_append]
  exact reads_start.2 ⟨t, _, rfl, .inl ⟨ht, reads_into.2
    ⟨u, _, rfl, hu, reads_name_columns (.inl rfl) hn hc hr⟩⟩⟩

theorem reads_of_head {depth : Nat} {head body : List Token}
    (h : Head kind schema table depth head body) (hl : IsClean body) (hb : IsBody depth body) :
    Reads .start (head ++ body) kind ⟨schema, table⟩ := by
  have hr : Reads (.body kind ⟨schema, table⟩ depth false) body kind ⟨schema, table⟩ :=
    reads_body.2 ⟨rfl, rfl, hl, hb⟩
  cases h with
  | values hi hn hc hv =>
    simp only [List.map_eq_cons_iff, List.map_eq_nil_iff] at hv
    obtain ⟨v, _, rfl, hv, w, _, rfl, hw, rfl⟩ := hv
    rw [List.append_assoc]
    exact reads_insert hi hn hc
      (reads_source.2 ⟨v, _, rfl, .inl ⟨hv, (reads_sole rfl).2 ⟨w, body, rfl, hw, hr⟩⟩⟩)
  | defaults hi hn hc hv =>
    simp only [List.map_eq_cons_iff, List.map_eq_nil_iff] at hv
    obtain ⟨v, _, rfl, hv, w, _, rfl, hw, rfl⟩ := hv
    rw [List.append_assoc]
    exact reads_insert hi hn hc
      (reads_source.2 ⟨v, _, rfl, .inr (.inl ⟨hv, (reads_sole rfl).2 ⟨w, body, rfl, hw, hr⟩⟩)⟩)
  | query hi hn hc hq =>
    refine reads_insert hi hn hc (reads_source.2 ?_)
    obtain ⟨v, rest, rfl, hv⟩ :
        ∃ v rest, body = v :: rest ∧ (v.kind = .keyword .SELECT ∨ v.kind = .keyword .WITH) := by
      rcases hq with ⟨v, rest, rfl, hv⟩ | ⟨v, rest, rfl, hv⟩
      · exact ⟨v, rest, rfl, .inl hv⟩
      · exact ⟨v, rest, rfl, .inr hv⟩
    refine ⟨v, rest, rfl, .inr (.inr ⟨hv, (reads_cons_ok ?_).1 hr⟩)⟩
    rcases hv with hv | hv <;> rw [step_body, hv] <;> rfl
  | updateOrInsert hi hn hc hv =>
    simp only [List.map_eq_cons_iff, List.map_eq_nil_iff] at hi hv
    obtain ⟨t, _, rfl, ht, u, _, rfl, hu, i, _, rfl, hi, o, _, rfl, ho, rfl⟩ := hi
    obtain ⟨v, _, rfl, hv, w, _, rfl, hw, rfl⟩ := hv
    have hs : Reads (.source .updateOrInsert ⟨schema, table⟩) (v :: w :: body) .updateOrInsert
        ⟨schema, table⟩ :=
      (reads_sole rfl).2 ⟨v, _, rfl, hv, (reads_sole rfl).2 ⟨w, body, rfl, hw, hr⟩⟩
    have hu' := (reads_sole (s := .updateOr) rfl).2
      ⟨i, _, rfl, hi, reads_into.2 ⟨o, _, rfl, ho, reads_name_columns (.inr rfl) hn hc hs⟩⟩
    simpa using reads_start.2
      ⟨t, _, rfl, .inr (.inl ⟨ht, reads_update.2 (.inl ⟨u, _, rfl, hu, hu'⟩)⟩)⟩
  | update hu hn ha hs hc he =>
    simp only [List.map_eq_cons_iff, List.map_eq_nil_iff] at hu hs he
    obtain ⟨t, _, rfl, ht, rfl⟩ := hu
    obtain ⟨v, _, rfl, hv, rfl⟩ := hs
    obtain ⟨e, _, rfl, he, rfl⟩ := he
    have hq := reads_assignee.2
      ⟨_, _, _, _, rfl, hc, reads_equals.2 ⟨e, body, rfl, he, hr⟩⟩
    have hcl := (reads_sole (s := .clause .update ⟨schema, table⟩) rfl).2 ⟨v, _, rfl, hv, hq⟩
    have hl := (reads_located_alias (.inl rfl)).2
      ⟨_, _, rfl, ha, fun _ => by simp [hv], hcl⟩
    simpa using reads_start.2
      ⟨t, _, rfl, .inr (.inl ⟨ht, reads_update.2 (.inr (reads_name_append (by simp) hn hl))⟩)⟩
  | delete hf hn ha hd has =>
    simp only [List.map_eq_cons_iff, List.map_eq_nil_iff] at hf
    obtain ⟨t, _, rfl, ht, u, _, rfl, hu, rfl⟩ := hf
    have hl := (reads_located_alias (.inr rfl)).2
      ⟨_, _, rfl, ha, has, reads_clause_delete.2 hr⟩
    have hf := (reads_sole (s := .from) rfl).2
      ⟨u, _, rfl, hu, reads_name.2 ⟨_, _, _, _, rfl, hn, hd, hl⟩⟩
    simpa using reads_start.2 ⟨t, _, rfl, .inr (.inr ⟨ht, hf⟩)⟩

end
end Reader

/-! ### Heads are clean -/

theorem isClean_of_isIdentifier {t : Token} (h : t.kind.isIdentifier = true) :
    ∀ m, t.kind ≠ .malformed m := by
  intro m hm
  simp [hm, Token.Kind.isIdentifier] at h

theorem IsName.isClean {schema : Option Text} {table : Text} {ts : List Token}
    (h : IsName schema table ts) : IsClean ts := by
  cases h with
  | plain ht => simp [isClean_of_isIdentifier ht]
  | qualified hs hd ht =>
    simp [isClean_of_isIdentifier hs, isClean_of_isIdentifier ht, hd]

theorem IsNames.isClean {ts : List Token} (h : IsNames ts) : IsClean ts := by
  induction h with
  | one ht => simp [isClean_of_isIdentifier ht]
  | more ht hc _ ih => simp [isClean_of_isIdentifier ht, hc, ih]

theorem IsColumns.isClean {ts : List Token} (h : IsColumns ts) : IsClean ts := by
  cases h with
  | none => simp
  | listed ho hn hc => simp [ho, hc, hn.isClean]

theorem IsAlias.isClean {ts : List Token} (h : IsAlias ts) : IsClean ts := by
  cases h with
  | none => simp
  | plain ht => simp [isClean_of_isIdentifier ht]
  | marked ha ht => simp [isClean_of_isIdentifier ht, ha]

theorem isClean_of_map {ts : List Token} {ks : List Token.Kind} (h : ts.map Token.kind = ks)
    (hk : ∀ k ∈ ks, ∀ m, k ≠ .malformed m) : IsClean ts := by
  subst h
  simpa [IsClean] using hk

theorem Head.isClean {kind : Kind} {schema : Option Text} {table : Text} {depth : Nat}
    {head body : List Token} (h : Head kind schema table depth head body) : IsClean head := by
  cases h with
  | values hi hn hc hv =>
    simp [isClean_of_map hi, isClean_of_map hv, hn.isClean, hc.isClean]
  | defaults hi hn hc hv =>
    simp [isClean_of_map hi, isClean_of_map hv, hn.isClean, hc.isClean]
  | query hi hn hc _ => simp [isClean_of_map hi, hn.isClean, hc.isClean]
  | updateOrInsert hi hn hc hv =>
    simp [isClean_of_map hi, isClean_of_map hv, hn.isClean, hc.isClean]
  | update hu hn ha hs hc he =>
    simp [isClean_of_map hu, isClean_of_map hs, isClean_of_map he, hn.isClean, ha.isClean,
      hc.isClean]
  | delete hf hn ha _ _ => simp [isClean_of_map hf, hn.isClean, ha.isClean]

/-- A text is read as a statement on a table exactly if none of its tokens is malformed and they
make up a statement of the grammar on that table. -/
theorem read_iff_isStatement (sql : Text) (kind : Kind) (schema : Option Text) (table : Text) :
    (∃ returning, read sql = .ok ⟨kind, schema, table, returning⟩) ↔
      IsClean (Token.lexemes sql) ∧ IsStatement kind schema table (Token.lexemes sql) := by
  have hr : (∃ returning, read sql = .ok ⟨kind, schema, table, returning⟩) ↔
      Reader.Reads .start (Token.lexemes sql) kind ⟨schema, table⟩ := by
    simp only [read_ok, Reader.Reads]
    exact exists_comm
  rw [hr]
  constructor
  · intro h
    obtain ⟨depth, head, body, he, hh, hl, hb⟩ := Reader.isHeaded_of_reads h
    refine ⟨?_, depth, head, body, he, hh, hb⟩
    rw [he, isClean_append]
    exact ⟨hh.isClean, hl⟩
  · intro hyp
    obtain ⟨hl, depth, head, body, he, hh, hb⟩ := hyp
    rw [he, isClean_append] at hl
    rw [he]
    exact Reader.reads_of_head hh hl.2 hb

end GeneratedKeys.Statement
