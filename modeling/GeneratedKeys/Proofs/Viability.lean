import GeneratedKeys.Proofs.Outline
import GeneratedKeys.Proofs.Printing

/-!
# Where a text is rejected

Tokens are viable if some statement begins with tokens of their kinds. No state of the reader is a
dead end: in each of them a few more tokens complete a statement, and these can be printed behind
the ones that have been read. So the tokens that lead to a state are viable, and a text is rejected
at its first token that is not viable together with those in front of it.
-/
namespace GeneratedKeys.Statement
open Token

/-- Some text that is read as a statement begins with tokens of these kinds. The token that marks
the end of the text counts. -/
def IsViable (ks : List Token.Kind) : Prop :=
  ∃ sql st, read sql = .ok st ∧ ks <+: (tokens sql).map Token.kind

/-! ### Tokens of the same kinds -/

/-- A token is spelled as its kind says, unless it is malformed. -/
def IsWritten (t : Token) : Prop :=
  (∀ m, t.kind ≠ .malformed m) → Spells t.kind t.raw

theorem isWritten_of_mem_lexemes {sql : Text} {t : Token} (h : t ∈ lexemes sql) : IsWritten t :=
  spells_of_mem_lexemes h

theorem ne_eof_of_spells {k : Token.Kind} {raw : Text} (h : Spells k raw) : k ≠ .eof := by
  cases h with
  | delimiter hd =>
    have hall : ∀ p ∈ delimiters, p.1 ≠ .eof := by decide
    exact hall _ hd
  | _ => simp

theorem ne_eof_of_isWritten {t : Token} (h : IsWritten t) : t.kind ≠ .eof := by
  intro he
  exact ne_eof_of_spells (h (by simp [he])) he

/-- The kind of an identifier tells how it is written. -/
theorem raw_eq_of_spells {k : Token.Kind} {raw raw' : Text} (hk : k.isIdentifier = true)
    (h : Spells k raw) (h' : Spells k raw') : raw = raw' := by
  have hall : ∀ p ∈ delimiters, p.1.isIdentifier = false := by decide
  cases h with
  | identifier =>
    cases h' with
    | identifier => rfl
    | delimiter hd => exact absurd hk (by simp [hall _ hd])
  | quotedIdentifier =>
    cases h' with
    | quotedIdentifier => rfl
    | delimiter hd => exact absurd hk (by simp [hall _ hd])
  | delimiter hd => exact absurd hk (by simp [hall _ hd])
  | _ => cases hk

theorem alike_of_kind_eq {t u : Token} (ht : IsWritten t) (hu : IsWritten u)
    (h : t.kind = u.kind) : Alike t u := by
  refine ⟨by rw [h], fun hk => ?_⟩
  have hm : ∀ m, t.kind ≠ .malformed m := by
    intro m hm
    simp [hm, Token.Kind.isIdentifier] at hk
  have hspells := hu (h ▸ hm)
  rw [← h] at hspells
  exact raw_eq_of_spells hk (ht hm) hspells

theorem forall₂_alike {ts us : List Token} (hts : ∀ t ∈ ts, IsWritten t)
    (hus : ∀ u ∈ us, IsWritten u) (h : ts.map Token.kind = us.map Token.kind) :
    List.Forall₂ Alike ts us := by
  induction ts generalizing us with
  | nil =>
    obtain rfl := List.map_eq_nil_iff.1 h.symm
    exact .nil
  | cons t ts ih =>
    obtain ⟨u, vs, rfl, hu, hvs⟩ := List.map_eq_cons_iff.1 h.symm
    rw [List.forall_mem_cons] at hts hus
    exact .cons (alike_of_kind_eq hts.1 hus.1 hu.symm) (ih hts.2 hus.2 hvs.symm)

namespace Reader
variable {s s' : State} {t : Token}

theorem run_alike {ts us : List Token} (h : List.Forall₂ Alike ts us) (hr : run s ts = .ok s') :
    run s us = .ok s' := by
  induction h generalizing s with
  | nil => exact hr
  | cons htu _ ih =>
    obtain ⟨v, hv, hrest⟩ := run_cons.1 hr
    refine run_cons.2 ⟨v, ?_, ih hrest⟩
    rcases step_alike htu s with ⟨w, ht, hu⟩ | ⟨f, g, ht, -⟩
    · rw [hv] at ht
      cases ht
      exact hu
    · rw [hv] at ht
      cases ht

/-! ### No state is a dead end -/

/-- Tokens that are written as their kinds say. -/
def AreSpelled (ts : List Token) : Prop :=
  ∀ t ∈ ts, Spells t.kind t.raw

theorem areSpelled_nil : AreSpelled [] :=
  fun _ ht => absurd ht List.not_mem_nil

theorem AreSpelled.cons {k : Token.Kind} {raw : Text} {start : Nat} {ts : List Token}
    (h : Spells k raw) (hts : AreSpelled ts) : AreSpelled (⟨k, raw, start⟩ :: ts) :=
  List.forall_mem_cons.2 ⟨h, hts⟩

theorem AreSpelled.append {ts us : List Token} (hts : AreSpelled ts) (hus : AreSpelled us) :
    AreSpelled (ts ++ us) :=
  List.forall_mem_append.2 ⟨hts, hus⟩

def someWord (k : Keyword) : Token :=
  ⟨.keyword k, k.letters, 0⟩

def someName : Token :=
  ⟨.identifier ['x'], ['x'], 0⟩

def closingSign : Token :=
  ⟨.rightParen, [')'], 0⟩

/-- Tokens that complete a statement behind VALUES. -/
def valuesEnding : List Token :=
  [⟨.leftParen, ['('], 0⟩, closingSign]

/-- Tokens that complete a statement behind the column to set. -/
def equalsEnding : List Token :=
  [⟨.eq, ['='], 0⟩]

/-- Tokens that complete a statement behind its table and the alias. -/
def clauseEnding : Kind → List Token
  | .delete => []
  | _ => someWord .SET :: someName :: equalsEnding

/-- Tokens that complete a statement behind its table. -/
def targetEnding : Kind → List Token
  | .insert | .updateOrInsert => someWord .VALUES :: valuesEnding
  | kind => clauseEnding kind

/-- Tokens that complete a statement from a state on. -/
def State.ending : State → List Token
  | .start => someWord .DELETE :: someWord .FROM :: someName :: targetEnding .delete
  | .update => someName :: targetEnding .update
  | .updateOr => someWord .INSERT :: someWord .INTO :: someName :: targetEnding .updateOrInsert
  | .into kind => someWord .INTO :: someName :: targetEnding kind
  | .from => someWord .FROM :: someName :: targetEnding .delete
  | .name kind | .qualified kind _ => someName :: targetEnding kind
  | .named kind _ | .located kind _ => targetEnding kind
  | .column _ _ => someName :: closingSign :: targetEnding .insert
  | .columnEnd _ _ => closingSign :: targetEnding .insert
  | .source _ _ => targetEnding .insert
  | .values _ _ => valuesEnding
  | .defaults _ _ => [someWord .VALUES]
  | .byname kind _ => someName :: clauseEnding kind
  | .clause kind _ => clauseEnding kind
  | .assignee _ _ | .field _ _ => someName :: equalsEnding
  | .assigned _ _ | .equals _ _ => equalsEnding
  | .body _ _ depth _ => List.replicate depth closingSign
  | .closed _ _ _ => []

theorem spells_letters (k : Keyword) : Spells (.keyword k) k.letters := by
  cases k <;> exact .keyword (by decide)

theorem spells_someName : Spells (.identifier ['x']) ['x'] :=
  .identifier ⟨'x', [], rfl, by decide, by simp⟩ (by intro k; cases k <;> decide)

theorem areSpelled_valuesEnding : AreSpelled valuesEnding :=
  .cons (.delimiter (by decide)) (.cons (.delimiter (by decide)) areSpelled_nil)

theorem areSpelled_equalsEnding : AreSpelled equalsEnding :=
  .cons (.delimiter (by decide)) areSpelled_nil

theorem areSpelled_clauseEnding (kind : Kind) : AreSpelled (clauseEnding kind) := by
  have hset : AreSpelled (someWord .SET :: someName :: equalsEnding) :=
    .cons (spells_letters .SET) (.cons spells_someName areSpelled_equalsEnding)
  cases kind with
  | delete => exact areSpelled_nil
  | _ => exact hset

theorem areSpelled_targetEnding (kind : Kind) : AreSpelled (targetEnding kind) := by
  have hrows : AreSpelled (someWord .VALUES :: valuesEnding) :=
    .cons (spells_letters .VALUES) areSpelled_valuesEnding
  cases kind with
  | insert => exact hrows
  | updateOrInsert => exact hrows
  | update => exact areSpelled_clauseEnding .update
  | delete => exact areSpelled_clauseEnding .delete

theorem areSpelled_ending (s : State) : AreSpelled s.ending := by
  have hname (kind : Kind) : AreSpelled (someName :: targetEnding kind) :=
    .cons spells_someName (areSpelled_targetEnding kind)
  have hinto (kind : Kind) : AreSpelled (someWord .INTO :: someName :: targetEnding kind) :=
    .cons (spells_letters .INTO) (hname kind)
  have hfrom : AreSpelled (someWord .FROM :: someName :: targetEnding .delete) :=
    .cons (spells_letters .FROM) (hname .delete)
  have hclosing : Spells .rightParen [')'] := .delimiter (by decide)
  have hlist : AreSpelled (closingSign :: targetEnding .insert) :=
    .cons hclosing (areSpelled_targetEnding .insert)
  have hassign : AreSpelled (someName :: equalsEnding) :=
    .cons spells_someName areSpelled_equalsEnding
  cases s with
  | start => exact .cons (spells_letters .DELETE) hfrom
  | update => exact hname .update
  | updateOr => exact .cons (spells_letters .INSERT) (hinto .updateOrInsert)
  | into kind => exact hinto kind
  | «from» => exact hfrom
  | name kind => exact hname kind
  | named kind => exact areSpelled_targetEnding kind
  | qualified kind => exact hname kind
  | located kind => exact areSpelled_targetEnding kind
  | column => exact .cons spells_someName hlist
  | columnEnd => exact hlist
  | source => exact areSpelled_targetEnding .insert
  | values => exact areSpelled_valuesEnding
  | defaults => exact .cons (spells_letters .VALUES) areSpelled_nil
  | byname kind => exact .cons spells_someName (areSpelled_clauseEnding kind)
  | clause kind => exact areSpelled_clauseEnding kind
  | assignee => exact hassign
  | assigned => exact areSpelled_equalsEnding
  | field => exact hassign
  | equals => exact areSpelled_equalsEnding
  | body kind target depth returning =>
    intro t ht
    rw [List.eq_of_mem_replicate ht]
    exact hclosing
  | closed => exact areSpelled_nil

/-- From every state on a statement can be completed. -/
theorem exists_finish (s : State) : ∃ u st, run s s.ending = .ok u ∧ finish u = .ok st := by
  cases s with
  | body kind target depth returning =>
    induction depth with
    | zero => exact ⟨_, _, rfl, rfl⟩
    | succ depth ih => exact ih
  | into kind => cases kind <;> exact ⟨_, _, rfl, rfl⟩
  | name kind => cases kind <;> exact ⟨_, _, rfl, rfl⟩
  | named kind => cases kind <;> exact ⟨_, _, rfl, rfl⟩
  | qualified kind => cases kind <;> exact ⟨_, _, rfl, rfl⟩
  | located kind => cases kind <;> exact ⟨_, _, rfl, rfl⟩
  | column kind => cases kind <;> exact ⟨_, _, rfl, rfl⟩
  | columnEnd kind => cases kind <;> exact ⟨_, _, rfl, rfl⟩
  | source kind => cases kind <;> exact ⟨_, _, rfl, rfl⟩
  | byname kind => cases kind <;> exact ⟨_, _, rfl, rfl⟩
  | clause kind => cases kind <;> exact ⟨_, _, rfl, rfl⟩
  | _ => exact ⟨_, _, rfl, rfl⟩

/-! ### Malformed tokens -/

theorem option_malformed (s : State) (m : Malformed) : option? s (.malformed m) = none := by
  cases s with
  | named kind first => cases kind <;> rfl
  | located kind target => cases kind <;> rfl
  | _ => rfl

theorem required_malformed (s : State) {m : Malformed} (h : t.kind = .malformed m) :
    required? s t = none := by
  cases s with
  | source kind target => cases kind <;> simp [required?, h]
  | _ => simp [required?, h]

/-- A malformed token is never read. -/
theorem ne_malformed_of_step (h : step s t = .ok s') (m : Malformed) : t.kind ≠ .malformed m := by
  intro hm
  rw [step, hm, option_malformed] at h
  generalize s.settle = v at h
  revert h
  fun_cases advance v t with
  | case1 kind target depth returning => simp [bodyStep, hm]
  | case2 => simp
  | case3 v _ _ u hu => simp [required_malformed v hm] at hu
  | case4 => simp
  | case5 => simp

theorem ne_malformed_of_run {ts : List Token} (h : run s ts = .ok s') :
    ∀ t ∈ ts, ∀ m, t.kind ≠ .malformed m := by
  induction ts generalizing s with
  | nil => simp
  | cons t ts ih =>
    obtain ⟨u, hu, hr⟩ := run_cons.1 h
    exact List.forall_mem_cons.2 ⟨ne_malformed_of_step hu, ih hr⟩

/-! ### What a token is refused for -/

theorem found_of_step {f : Fault} (h : step s t = .error f) {k : Token.Kind}
    (hk : f.found? = some k) : k = t.kind := by
  unfold step at h
  split at h
  · cases h
  · generalize s.settle = v at h
    revert h
    fun_cases advance v t with
    | case1 kind target depth returning =>
      generalize t.kind = k' at *
      fun_cases bodyStep kind target depth returning k' <;> intro h <;> cases h <;> cases hk
      rfl
    | case2 =>
      intro h
      cases h
      cases hk
    | case3 =>
      intro h
      cases h
    | case4 =>
      intro h
      cases h
      cases hk
    | case5 =>
      intro h
      cases h
      cases hk
      rfl

theorem found_of_finish {f : Fault} (h : finish s = .error f) {k : Token.Kind}
    (hk : f.found? = some k) : k = .eof := by
  unfold finish at h
  split at h <;> cases h
  cases hk
  rfl

/-- A run that fails has read all tokens in front of the one that is refused. -/
theorem exists_step_of_run {ts : List Token} {r : Rejection} (h : run s ts = .error r) :
    ∃ before t after u f, ts = before ++ t :: after ∧ run s before = .ok u ∧
      step u t = .error f ∧ r = f.at t := by
  induction ts generalizing s with
  | nil => cases h
  | cons t ts ih =>
    rw [run_cons_eq] at h
    cases hs : step s t with
    | error f =>
      rw [hs] at h
      cases h
      exact ⟨[], t, ts, s, f, rfl, run_nil.2 rfl, hs, rfl⟩
    | ok v =>
      rw [hs] at h
      obtain ⟨before, u, after, w, f, rfl, hr, hf, rfl⟩ := ih h
      exact ⟨t :: before, u, after, w, f, rfl, run_cons.2 ⟨v, hs, hr⟩, hf, rfl⟩

theorem not_run_concat {ts : List Token} {f : Fault} (hr : run s ts = .ok s')
    (hf : step s' t = .error f) : ¬ ∃ u, run s (ts ++ [t]) = .ok u := by
  rintro ⟨u, hu⟩
  obtain ⟨v, hv, ht⟩ := run_append.1 hu
  obtain ⟨w, hw, -⟩ := run_cons.1 ht
  rw [hr] at hv
  cases hv
  rw [hf] at hw
  cases hw

end Reader

/-! ### Viable tokens -/

theorem exists_printed {ts : List Token} (h : Reader.AreSpelled ts) :
    ∃ sql, Printed (ts.map Token.kind) sql := by
  have hspace : Layout.IsSeparator [' '] := ⟨' ', [], rfl, by decide, .nil⟩
  induction ts with
  | nil => exact ⟨_, .nil hspace⟩
  | cons t ts ih =>
    obtain ⟨ht, hts⟩ := List.forall_mem_cons.1 h
    obtain ⟨sql, hsql⟩ := ih hts
    exact ⟨_, .cons hspace ht hsql⟩

theorem eof_not_mem {sql : Text} : Token.Kind.eof ∉ (lexemes sql).map Token.kind := by
  intro h
  obtain ⟨t, ht, hk⟩ := List.mem_map.1 h
  exact ne_eof_of_isWritten (isWritten_of_mem_lexemes ht) hk

theorem kinds_tokens (sql : Text) :
    (tokens sql).map Token.kind = (lexemes sql).map Token.kind ++ [.eof] := by
  rw [tokens, List.map_append]
  rfl

/-- Tokens are viable if and only if they are read. -/
theorem isViable_iff_run {ts : List Token} (hts : ∀ t ∈ ts, IsWritten t) :
    IsViable (ts.map Token.kind) ↔ ∃ s, Reader.run .start ts = .ok s := by
  constructor
  · rintro ⟨sql, st, hread, hpre⟩
    rw [kinds_tokens, List.prefix_concat_iff] at hpre
    rcases hpre with heq | hpre
    · have heof : Token.Kind.eof ∈ ts.map Token.kind := by simp [heq]
      obtain ⟨t, ht, hk⟩ := List.mem_map.1 heof
      exact absurd hk (ne_eof_of_isWritten (hts t ht))
    · obtain ⟨ks, hks⟩ := hpre
      obtain ⟨us, vs, hcut, hus, -⟩ := List.map_eq_append_iff.1 hks.symm
      obtain ⟨s, hs, -⟩ := read_ok.1 hread
      rw [hcut] at hs
      obtain ⟨u, hu, -⟩ := Reader.run_append.1 hs
      have hwritten : ∀ v ∈ us, IsWritten v := fun v hv =>
        @isWritten_of_mem_lexemes sql v (by simp [hcut, hv])
      exact ⟨u, Reader.run_alike (forall₂_alike hwritten hts hus) hu⟩
  · rintro ⟨s, hs⟩
    have hspelled : Reader.AreSpelled ts := fun t ht => hts t ht (Reader.ne_malformed_of_run hs t ht)
    -- What completes a statement from the state on is printed behind the tokens.
    obtain ⟨u, st, hu, hst⟩ := Reader.exists_finish s
    have hall := hspelled.append (Reader.areSpelled_ending s)
    obtain ⟨sql, hsql⟩ := exists_printed hall
    have hkinds : (lexemes sql).map Token.kind = (ts ++ s.ending).map Token.kind :=
      kinds_printed hsql 0
    have hlike : List.Forall₂ Alike (ts ++ s.ending) (lexemes sql) :=
      forall₂_alike (fun t ht _ => hall t ht) (fun t ht => isWritten_of_mem_lexemes ht) hkinds.symm
    have hrun := Reader.run_alike hlike (Reader.run_append.2 ⟨s, hs, hu⟩)
    refine ⟨sql, st, read_ok.2 ⟨u, hrun, hst⟩, ?_⟩
    rw [kinds_tokens, hkinds, List.map_append, List.append_assoc]
    exact List.prefix_append _ _

/-- Tokens are viable with the end of the text behind them only if they make up a statement. -/
theorem exists_finish_of_isViable {ts : List Token} (hts : ∀ t ∈ ts, IsWritten t)
    (h : IsViable (ts.map Token.kind ++ [.eof])) :
    ∃ s st, Reader.run .start ts = .ok s ∧ Reader.finish s = .ok st := by
  obtain ⟨sql, st, hread, hpre⟩ := h
  rw [kinds_tokens, List.prefix_concat_iff] at hpre
  rcases hpre with heq | hpre
  · have hkinds : (lexemes sql).map Token.kind = ts.map Token.kind :=
      (List.append_cancel_right heq).symm
    obtain ⟨s, hs, hst⟩ := read_ok.1 hread
    have hlike : List.Forall₂ Alike (lexemes sql) ts :=
      forall₂_alike (fun t ht => isWritten_of_mem_lexemes ht) hts hkinds
    exact ⟨s, st, Reader.run_alike hlike hs, hst⟩
  · exact absurd (hpre.subset (by simp)) eof_not_mem

/-- A text is rejected for a token that is refused, or because it ends too early. -/
theorem refused_of_read {sql : Text} {r : Rejection} (h : read sql = .error r) :
    (∃ before t after s f, lexemes sql = before ++ t :: after ∧
      Reader.run .start before = .ok s ∧ Reader.step s t = .error f ∧ r = f.at t) ∨
    ∃ s f, Reader.run .start (lexemes sql) = .ok s ∧ Reader.finish s = .error f ∧
      r = f.at (atEnd sql) := by
  unfold read at h
  cases hs : Reader.run .start (lexemes sql) with
  | error r' =>
    rw [hs] at h
    cases h
    exact .inl (Reader.exists_step_of_run hs)
  | ok s =>
    rw [hs] at h
    cases hf : Reader.finish s with
    | ok st =>
      simp [bind, Except.bind, Except.mapError, hf] at h
    | error f =>
      simp only [bind, Except.bind, Except.mapError, hf, Except.error.injEq] at h
      exact .inr ⟨s, f, rfl, hf, h.symm⟩

/-- A text is rejected at its first token that no statement could have there: the kinds of the
tokens in front of it begin the tokens of some statement, and with its own kind they begin those
of none. -/
theorem rejected_at_first {sql : Text} {r : Rejection} (h : read sql = .error r) :
    ∃ i t, (tokens sql)[i]? = some t ∧ r.span = t.span ∧
      (∀ k, r.fault.found? = some k → k = t.kind) ∧
      IsViable (((tokens sql).take i).map Token.kind) ∧
      ¬ IsViable (((tokens sql).take (i + 1)).map Token.kind) := by
  have hwritten : ∀ t ∈ lexemes sql, IsWritten t := fun t ht => isWritten_of_mem_lexemes ht
  rcases refused_of_read h with ⟨before, t, after, s, f, hcut, hs, hf, rfl⟩ | ⟨s, f, hs, hf, rfl⟩
  · have htokens : tokens sql = before ++ t :: (after ++ [atEnd sql]) := by simp [tokens, hcut]
    rw [hcut, List.append_cons] at hwritten
    have hall : ∀ u ∈ before ++ [t], IsWritten u := (List.forall_mem_append.1 hwritten).1
    have hbefore : ∀ u ∈ before, IsWritten u := (List.forall_mem_append.1 hall).1
    refine ⟨before.length, t, by simp [htokens], rfl, fun k hk => Reader.found_of_step hf hk, ?_, ?_⟩
    · rw [htokens, List.take_left]
      exact (isViable_iff_run hbefore).2 ⟨s, hs⟩
    · have htake : (tokens sql).take (before.length + 1) = before ++ [t] := by
        rw [htokens, List.take_length_add_append]
        rfl
      rw [htake, isViable_iff_run hall]
      exact Reader.not_run_concat hs hf
  · refine ⟨(lexemes sql).length, atEnd sql, by simp [tokens], rfl,
      fun k hk => Reader.found_of_finish hf hk, ?_, ?_⟩
    · rw [tokens, List.take_left]
      exact (isViable_iff_run hwritten).2 ⟨s, hs⟩
    · have htake : (tokens sql).take ((lexemes sql).length + 1) = tokens sql :=
        List.take_of_length_le (by simp [tokens])
      rw [htake, kinds_tokens]
      intro hv
      obtain ⟨u, st, hu, hst⟩ := exists_finish_of_isViable hwritten hv
      rw [hs] at hu
      cases hu
      rw [hf] at hst
      cases hst

/-- The second closing parenthesis is one too many, although what follows is malformed. -/
theorem rejected_at_first_unbalanced :
    let sql := "INSERT INTO t (a) VALUES (1)) '".toList
    let r : Rejection := ⟨.unbalanced, ⟨28, 29⟩⟩
    read sql = .error r ∧ ∃ i t, (tokens sql)[i]? = some t ∧ r.span = t.span ∧
      (∀ k, r.fault.found? = some k → k = t.kind) ∧
      IsViable (((tokens sql).take i).map Token.kind) ∧
      ¬ IsViable (((tokens sql).take (i + 1)).map Token.kind) := by
  intro sql r
  have hread : read sql = .error r := by decide +kernel
  exact ⟨hread, rejected_at_first hread⟩

end GeneratedKeys.Statement
