import GeneratedKeys.Proofs.Coherence
import GeneratedKeys.Proofs.Memoization

/-!
# When queries fail

A query can fail at three moments only: when it is made, when its columns are looked up for the
first and last time, and whenever it is asked after that. Which of the failures it is follows from
the moment.
-/
namespace GeneratedKeys.Query

/-- Why a query cannot be made: for an unknown flag, or for want of a reader. Only to ask for no
keys needs no reader. -/
inductive Refused (canRead : Bool) : Request → Failure → Prop
  | flag (n : Int) (h : n ≠ 1 ∧ n ≠ 2) : Refused canRead (.flag n) (.invalidFlag n)
  | unavailable (request : Request) (hread : canRead = false)
      (hwish : request ≠ .wish .noKeys) (hflag : ∀ n, request = .flag n → n = 1) :
      Refused canRead request .featureUnavailable

theorem ofFlag?_eq_none_iff {n : Int} : Wish.ofFlag? n = none ↔ n ≠ 1 ∧ n ≠ 2 := by
  by_cases h1 : n = 1 <;> by_cases h2 : n = 2 <;> simp [Wish.ofFlag?, h1, h2]

theorem wish_eq_error_iff {canRead : Bool} {w : Wish} {e : Failure} :
    w.selection canRead = .error e ↔
      w = .returnKeys ∧ canRead = false ∧ e = .featureUnavailable := by
  cases w <;> cases canRead <;> simp [Wish.selection, eq_comm]

theorem Refused.of_error {canRead : Bool} {request : Request} {e : Failure}
    (h : request.selection canRead = .error e) : Refused canRead request e := by
  cases request with
  | wish w =>
    obtain ⟨rfl, rfl, rfl⟩ := wish_eq_error_iff.1 h
    exact .unavailable _ rfl (by simp) (by simp)
  | flag n =>
    simp only [Request.selection] at h
    cases hw : Wish.ofFlag? n with
    | none =>
      rw [hw] at h
      cases h
      exact .flag n (ofFlag?_eq_none_iff.1 hw)
    | some w =>
      rw [hw] at h
      obtain ⟨rfl, rfl, rfl⟩ := wish_eq_error_iff.1 h
      have hn : n = 1 := Wish.ofFlag?_eq_some_iff.1 hw
      exact .unavailable _ rfl (by simp) (by simpa using hn)
  | positions wanted =>
    cases canRead with
    | false =>
      cases h
      exact .unavailable _ rfl (by simp) (by simp)
    | true =>
      simp only [Request.selection, if_true] at h
      split at h <;> cases h
  | names wanted =>
    cases canRead with
    | false =>
      cases h
      exact .unavailable _ rfl (by simp) (by simp)
    | true =>
      simp only [Request.selection, if_true] at h
      split at h <;> cases h

theorem Refused.selection {canRead : Bool} {request : Request} {e : Failure}
    (h : Refused canRead request e) : request.selection canRead = .error e := by
  cases h with
  | flag n h => simp only [Request.selection, ofFlag?_eq_none_iff.2 h]
  | unavailable request hread hwish hflag =>
    subst hread
    cases request with
    | wish w =>
      cases w with
      | returnKeys => rfl
      | noKeys => exact absurd rfl hwish
    | flag n =>
      obtain rfl : n = 1 := hflag n rfl
      rfl
    | positions wanted => rfl
    | names wanted => rfl

/-! ### Asking with any backend -/

variable {σ : Type} {b : Backend (StateM σ)} {sql : Text} {selection : Selection}

/-- What a query answers in a state, after it has been asked in others. -/
def answered (b : Backend (StateM σ)) (states : List σ) (q : Query) (w : σ) :
    Except Failure Result :=
  (((asked b states q).process b).run w).1.2

/-- A lookup for a statement without RETURNING that a backend answers with a failure. -/
structure LookupFails (b : Backend (StateM σ)) (sql : Text) (selection : Selection) (w : σ)
    (cause : String) : Prop where
  isLookedUp : selection.isLookedUp = true
  fails : ∃ read s, b.read? = some read ∧ ((read sql).run w).1 = .ok s ∧ s.returning = false ∧
    ((b.columns (TableName.pattern s.table)).run ((read sql).run w).2).1 = .error cause

theorem answered_nil_eq_error_iff (hs : b.read?.isSome = true ∨ selection = .none) (w : σ)
    {e : Failure} :
    answered b [] (ofSelection sql selection) w = .error e ↔
      ∃ cause, LookupFails b sql selection w cause ∧ e = .metadata cause := by
  unfold answered asked
  rw [List.foldl_nil]
  cases hb : b.read? with
  | none =>
    obtain rfl : selection = .none := by simpa [hb] using hs
    rw [process_of_no_reader hb fun _ => .ok []]
    refine iff_of_false (by simp [outcome, statement?, Support.unavailable]) ?_
    rintro ⟨cause, h, -⟩
    cases h.isLookedUp
  | some read =>
    rw [run_process_of_read hb]
    have hconsult : ∀ s, ((read sql).run w).1 = .ok s → s.returning = false →
        selection.isLookedUp = true →
        b.consult selection ((read sql).run w).1 = b.columns (TableName.pattern s.table) := by
      intro s ha hr hl
      simp only [ha, Backend.consult, hr, hl, Bool.not_false, Bool.and_self, if_true]
    have hread : ∀ s, statement? (answering ((read sql).run w).1) sql = some s ↔
        ((read sql).run w).1 = .ok s := by
      intro s
      cases ha : ((read sql).run w).1 <;> simp [statement?, answering, Except.toOption]
    dsimp only
    rw [outcome_eq_error_iff]
    constructor
    · rintro ⟨hl, s, hf, hr, cause, hc, rfl⟩
      have ha := (hread s).1 hf
      rw [hconsult s ha hr hl] at hc
      exact ⟨cause, ⟨hl, read, s, hb, ha, hr, hc⟩, rfl⟩
    · rintro ⟨cause, ⟨hl, read', s, hb', ha, hr, hc⟩, rfl⟩
      obtain rfl : read = read' := Option.some.inj (hb.symm.trans hb')
      refine ⟨hl, s, (hread s).2 ha, hr, cause, ?_, rfl⟩
      rw [hconsult s ha hr hl, hc]

theorem answered_cons (hs : b.read?.isSome = true ∨ selection = .none) (sql : Text) (v : σ)
    (states : List σ) (w : σ) :
    answered b (v :: states) (ofSelection sql selection) w =
      recalled (answered b [] (ofSelection sql selection) v) := by
  obtain ⟨found, lookup, -, h⟩ := ending_process hs sql v
  rw [answered, asked_cons hs, process_of_progress h.progress]
  rfl

theorem recalled_eq_error_iff {o : Except Failure Result} {e : Failure} :
    recalled o = .error e ↔ e = .previouslyFailed ∧ ∃ f, o = .error f := by
  cases o <;> simp [recalled, eq_comm]

/-- The complete law of failing: the first time a query is asked it fails as its lookup does, and
afterwards because it has failed then. -/
theorem answered_eq_error_iff (hs : b.read?.isSome = true ∨ selection = .none) (states : List σ)
    (w : σ) {e : Failure} :
    answered b states (ofSelection sql selection) w = .error e ↔
      (states = [] ∧ ∃ cause, LookupFails b sql selection w cause ∧ e = .metadata cause) ∨
      ∃ v rest cause, states = v :: rest ∧ LookupFails b sql selection v cause ∧
        e = .previouslyFailed := by
  cases states with
  | nil => simp [answered_nil_eq_error_iff hs]
  | cons v states =>
    rw [answered_cons hs, recalled_eq_error_iff]
    simp only [answered_nil_eq_error_iff hs]
    constructor
    · rintro ⟨rfl, f, cause, h, -⟩
      exact .inr ⟨v, states, cause, rfl, h, rfl⟩
    · rintro (⟨hn, -⟩ | ⟨v', rest, cause, hv, h, rfl⟩)
      · cases hn
      · obtain ⟨rfl, rfl⟩ := List.cons.inj hv
        exact ⟨rfl, .metadata cause, cause, h, rfl⟩

/-- Where no columns are looked up nothing fails, and a selection of no columns keeps the text. -/
theorem Ending.of_not_isLookedUp {found : Option Statement}
    {lookup : Text → Except String (List Column)} {q : Query} {o : Except Failure Result}
    (h : Ending found lookup sql selection q o) (hl : selection.isLookedUp = false) :
    ∃ r, o = .ok r ∧ (selection = .none → r.sql = sql) := by
  cases h with
  | kept generatesKeys hk => exact ⟨_, rfl, fun _ => rfl⟩
  | added s hf hs columns hc hr =>
    refine ⟨_, rfl, ?_⟩
    rintro rfl
    cases hr
    exact absurd rfl hc
  | failed s hf hs e hr =>
    have h := (resolve_eq_error_iff.1 hr).1
    simp [hl] at h

theorem exists_answered (hs : b.read?.isSome = true ∨ selection = .none)
    (hl : selection.isLookedUp = false) (sql : Text) (states : List σ) (w : σ) :
    ∃ r, answered b states (ofSelection sql selection) w = .ok r ∧
      (selection = .none → r.sql = sql) := by
  have hfirst : ∀ v, ∃ r, answered b [] (ofSelection sql selection) v = .ok r ∧
      (selection = .none → r.sql = sql) := by
    intro v
    obtain ⟨found, lookup, -, h⟩ := ending_process hs sql v
    exact h.of_not_isLookedUp hl
  cases states with
  | nil => exact hfirst w
  | cons v states =>
    obtain ⟨r, hr, hsql⟩ := hfirst v
    rw [answered_cons hs, hr]
    exact ⟨r, rfl, hsql⟩

end GeneratedKeys.Query

namespace GeneratedKeys.Session
open Query

/-! ### Making a query -/

theorem make_failed_iff (s : Session) (sql : Text) (request : Request) (e : Failure) :
    (s.step (.make sql request)).2 = .failed e ↔ Refused s.support.isLoaded request e := by
  rw [step_make]
  cases hr : request.selection s.support.isLoaded with
  | ok selection =>
    refine iff_of_false (by simp) ?_
    intro h
    rw [h.selection] at hr
    cases hr
  | error f =>
    have hf := Refused.of_error hr
    constructor
    · intro h
      obtain rfl := Answer.failed.inj h
      exact hf
    · intro h
      rw [h.selection] at hr
      rw [Except.error.inj hr]

/-! ### Asking a query -/

variable {support : Support} {source : Source} {before between xs ys : List Step} {sql : Text}
  {request : Request} {selection : Selection} {number : Nat} {a c : Accessor}
  {o : Except Failure Result}

theorem answer_eq_failed_iff {e : Failure} : a.answer o = .failed e ↔ o = .error e := by
  cases o <;> cases a <;> simp [Accessor.answer]

/-- The outcome of a query if it is asked for the first time after some steps. -/
def outcomeAfter (support : Support) (source : Source) (steps : List Step) (sql : Text)
    (selection : Selection) : Except Failure Result :=
  outcome support (after support source steps).host.answers sql selection

/-- A step at which a query is asked for the first time. -/
theorem exists_first (h : ¬ ∀ c : Accessor, c.on number ∉ between) :
    ∃ (xs : List Step) (c : Accessor) (ys : List Step), between = xs ++ c.on number :: ys ∧
      ∀ d : Accessor, d.on number ∉ xs := by
  induction between with
  | nil => simp at h
  | cons t between ih =>
    by_cases ht : ∃ c : Accessor, t = c.on number
    · obtain ⟨c, rfl⟩ := ht
      exact ⟨[], c, between, rfl, by simp⟩
    · have hrest : ¬ ∀ c : Accessor, c.on number ∉ between := by
        intro hall
        apply h
        intro c hc
        rcases List.mem_cons.1 hc with rfl | hc
        · exact ht ⟨c, rfl⟩
        · exact hall c hc
      obtain ⟨xs, c, ys, rfl, hxs⟩ := ih hrest
      refine ⟨t :: xs, c, ys, rfl, ?_⟩
      intro d hd
      rcases List.mem_cons.1 hd with rfl | hd
      · exact ht ⟨d, rfl⟩
      · exact hxs d hd

/-- Steps that do not use a query up ask it in other ways only. -/
theorem unused_of_append (hu : Accessor.use.on number ∉ xs ++ c.on number :: ys) :
    Accessor.use.on number ∉ xs ∧ c ≠ .use ∧ Accessor.use.on number ∉ ys := by
  simp only [List.mem_append, List.mem_cons, not_or] at hu
  obtain ⟨hx, hc, hy⟩ := hu
  refine ⟨hx, ?_, hy⟩
  rintro rfl
  exact hc rfl

theorem isLoaded_after (hs : request.selection support.isLoaded = .ok selection)
    (source : Source) (steps : List Step) :
    (after support source steps).support.isLoaded = true ∨ selection = .none := by
  rw [support_after]
  exact isLoaded_or_eq_none hs

section
variable (hs : request.selection support.isLoaded = .ok selection)
  (hn : ((after support source before).step (.make sql request)).2 = .made number)
include hs hn

/-- The first accessor answers from the outcome at its moment. -/
theorem answer_first (hb : ∀ d : Accessor, d.on number ∉ between) (a : Accessor) :
    ((after support source (before ++ .make sql request :: between)).step (a.on number)).2 =
      a.answer (outcomeAfter support source (before ++ .make sql request :: between) sql
        selection) := by
  have hq := query?_after_made hs hn hb
  rw [first_answer hq (isLoaded_after hs source _), support_after]
  rfl

/-- A later accessor recalls the outcome at the moment of the first one. -/
theorem answer_later (hx : ∀ d : Accessor, d.on number ∉ xs) (hc : c ≠ .use)
    (hy : Accessor.use.on number ∉ ys) (a : Accessor) :
    ((after support source (before ++ .make sql request :: (xs ++ c.on number :: ys))).step
        (a.on number)).2 =
      a.answer (recalled (outcomeAfter support source (before ++ .make sql request :: xs) sql
        selection)) := by
  have hq := query?_after_made hs hn hx
  have hfirst := query?_of_first hq (isLoaded_after hs source _) hc
  have hlater := query?_run_of_progress ys hfirst rfl hy
  have hsplit : before ++ .make sql request :: (xs ++ c.on number :: ys) =
      (before ++ .make sql request :: xs) ++ c.on number :: ys := by simp
  rw [hsplit, after_append]
  rw [support_after] at hlater
  exact later_answer hlater rfl a

/-- A query that has not been used up answers from an outcome: from the one of the moment if it is
asked for the first time, and otherwise from that of the first time, which it recalls. -/
theorem answer_cases (hu : Accessor.use.on number ∉ between) (a : Accessor) :
    ((∀ d : Accessor, d.on number ∉ between) ∧
      ((after support source (before ++ .make sql request :: between)).step (a.on number)).2 =
        a.answer (outcomeAfter support source (before ++ .make sql request :: between) sql
          selection)) ∨
    ∃ (xs : List Step) (c : Accessor) (ys : List Step), between = xs ++ c.on number :: ys ∧
      ((after support source (before ++ .make sql request :: xs)).step (c.on number)).2 =
        c.answer (outcomeAfter support source (before ++ .make sql request :: xs) sql selection) ∧
      ((after support source (before ++ .make sql request :: between)).step (a.on number)).2 =
        a.answer (recalled (outcomeAfter support source (before ++ .make sql request :: xs) sql
          selection)) := by
  by_cases hb : ∀ d : Accessor, d.on number ∉ between
  · exact .inl ⟨hb, answer_first hs hn hb a⟩
  · obtain ⟨xs, c, ys, rfl, hx⟩ := exists_first hb
    obtain ⟨-, hc, hy⟩ := unused_of_append hu
    exact .inr ⟨xs, c, ys, rfl, answer_first hs hn hx c, answer_later hs hn hx hc hy a⟩

/-- Looking columns up fails only for the first accessor. -/
theorem metadata_iff (hu : Accessor.use.on number ∉ between) (a : Accessor) (cause : String) :
    ((after support source (before ++ .make sql request :: between)).step (a.on number)).2 =
        .failed (.metadata cause) ↔
      (∀ d : Accessor, d.on number ∉ between) ∧
        outcomeAfter support source (before ++ .make sql request :: between) sql selection =
          .error (.metadata cause) := by
  rcases answer_cases hs hn hu a with ⟨hb, ha⟩ | ⟨xs, c, ys, rfl, -, ha⟩
  · rw [ha, answer_eq_failed_iff]
    exact ⟨fun h => ⟨hb, h⟩, fun h => h.2⟩
  · rw [ha, answer_eq_failed_iff]
    refine iff_of_false ?_ ?_
    · cases outcomeAfter support source (before ++ .make sql request :: xs) sql selection <;>
        simp [recalled]
    · intro h
      exact h.1 c (by simp)

/-- An accessor is told of an earlier failure exactly if there has been one. -/
theorem previouslyFailed_iff (hu : Accessor.use.on number ∉ between) (a : Accessor) :
    ((after support source (before ++ .make sql request :: between)).step (a.on number)).2 =
        .failed .previouslyFailed ↔
      ∃ (xs : List Step) (c : Accessor) (ys : List Step) (cause : String),
        between = xs ++ c.on number :: ys ∧
          ((after support source (before ++ .make sql request :: xs)).step (c.on number)).2 =
            .failed (.metadata cause) := by
  constructor
  · intro h
    rcases answer_cases hs hn hu a with ⟨-, ha⟩ | ⟨xs, c, ys, hb, hc, ha⟩
    · rw [ha, answer_eq_failed_iff] at h
      obtain ⟨-, s, -, -, cause, -, hf⟩ := outcome_eq_error_iff.1 h
      cases hf
    · rw [ha, answer_eq_failed_iff, recalled_eq_error_iff] at h
      obtain ⟨-, f, hf⟩ := h
      obtain ⟨-, s, -, -, cause, -, rfl⟩ := outcome_eq_error_iff.1 hf
      exact ⟨xs, c, ys, cause, hb, by rw [hc, answer_eq_failed_iff, hf]⟩
  · rintro ⟨xs, c, ys, cause, rfl, hc⟩
    obtain ⟨hux, huc, huy⟩ := unused_of_append hu
    obtain ⟨hx, ho⟩ := (metadata_iff hs hn hux c cause).1 hc
    rw [answer_later hs hn hx huc huy, ho, answer_eq_failed_iff]
    rfl

theorem answer_of_not_isLookedUp (hu : Accessor.use.on number ∉ between)
    (hl : selection.isLookedUp = false) (a : Accessor) :
    ∃ r, ((after support source (before ++ .make sql request :: between)).step (a.on number)).2 =
        a.answer (.ok r) ∧ (selection = .none → r.sql = sql) := by
  have hok : ∀ steps, ∃ r, outcomeAfter support source steps sql selection = .ok r ∧
      (selection = .none → r.sql = sql) := by
    intro steps
    exact (ending_settled support _ sql selection).of_not_isLookedUp hl
  rcases answer_cases hs hn hu a with ⟨-, ha⟩ | ⟨xs, c, ys, -, -, ha⟩
  · obtain ⟨r, hr, hsql⟩ := hok (before ++ .make sql request :: between)
    exact ⟨r, by rw [ha, hr], hsql⟩
  · obtain ⟨r, hr, hsql⟩ := hok (before ++ .make sql request :: xs)
    exact ⟨r, by rw [ha, hr]; rfl, hsql⟩

/-- A query that has not been used up answers with a result or with one of two failures. -/
theorem answer_failures (hu : Accessor.use.on number ∉ between) (a : Accessor) :
    let answer :=
      ((after support source (before ++ .make sql request :: between)).step (a.on number)).2
    (∃ r, answer = a.answer (.ok r)) ∨ (∃ cause, answer = .failed (.metadata cause)) ∨
      answer = .failed .previouslyFailed := by
  intro answer
  rcases answer_cases hs hn hu a with ⟨-, ha⟩ | ⟨xs, c, ys, -, -, ha⟩
  · cases ho : outcomeAfter support source (before ++ .make sql request :: between) sql
        selection with
    | ok r => exact .inl ⟨r, ha.trans (by rw [ho])⟩
    | error e =>
      obtain ⟨-, s, -, -, cause, -, rfl⟩ := outcome_eq_error_iff.1 ho
      exact .inr (.inl ⟨cause, ha.trans (by rw [ho, answer_eq_failed_iff])⟩)
  · cases ho : outcomeAfter support source (before ++ .make sql request :: xs) sql selection with
    | ok r => exact .inl ⟨r, ha.trans (by rw [ho]; rfl)⟩
    | error e => exact .inr (.inr (ha.trans (by rw [ho, answer_eq_failed_iff]; rfl)))

end

/-- The law of failing in sessions. A query is refused when it is made, without a call to the reader
or the source, exactly for an unknown flag or for want of a reader. A query that has been made and
not been used up fails with the cause of a lookup exactly if it is asked for the first time, its
columns are looked up and the lookup fails at that moment; it fails for having failed exactly if an
accessor has failed with such a cause before; and it fails in no other way. This is so with any
reader and any source, and so a query that looks no columns up never fails. -/
theorem failures_exact (support : Support) (source : Source) :
    (∀ (steps : List Step) (sql : Text) (request : Request),
      let s := after support source steps
      let made := s.step (.make sql request)
      made.1.host = s.host ∧
        (∀ e, made.2 = .failed e ↔ Refused support.isLoaded request e) ∧
        ((∀ e, ¬ Refused support.isLoaded request e) → made.2 = .made s.queries.length)) ∧
    (∀ (before between : List Step) (sql : Text) (request : Request) (selection : Selection)
        (number : Nat) (a : Accessor),
      request.selection support.isLoaded = .ok selection →
      ((after support source before).step (.make sql request)).2 = .made number →
      Accessor.use.on number ∉ between →
      let s := after support source (before ++ .make sql request :: between)
      let answer := (s.step (a.on number)).2
      (∀ cause, answer = .failed (.metadata cause) ↔
        (∀ c : Accessor, c.on number ∉ between) ∧ selection.isLookedUp = true ∧
          ∃ t, statement? support sql = some t ∧ t.returning = false ∧
            s.host.answers (TableName.pattern t.table) = .error cause) ∧
      (answer = .failed .previouslyFailed ↔
        ∃ (xs : List Step) (c : Accessor) (ys : List Step) (cause : String),
          between = xs ++ c.on number :: ys ∧
            ((after support source (before ++ .make sql request :: xs)).step (c.on number)).2 =
              .failed (.metadata cause)) ∧
      ((∃ r, answer = a.answer (.ok r)) ∨ (∃ cause, answer = .failed (.metadata cause)) ∨
        answer = .failed .previouslyFailed) ∧
      (selection.isLookedUp = false →
        ∃ r, answer = a.answer (.ok r) ∧ (selection = .none → r.sql = sql))) ∧
    ∀ {σ : Type} (b : Backend (StateM σ)) (sql : Text) (request : Request) (q : Query),
      make b.read?.isSome sql request = .ok q → ∀ (states : List σ) (w : σ),
      (∀ e, answered b states q w = .error e ↔
        (states = [] ∧ ∃ cause, LookupFails b sql q.selection w cause ∧ e = .metadata cause) ∨
        ∃ v rest cause, states = v :: rest ∧ LookupFails b sql q.selection v cause ∧
          e = .previouslyFailed) ∧
      (q.selection.isLookedUp = false →
        ∃ r, answered b states q w = .ok r ∧ (q.selection = .none → r.sql = sql)) := by
  refine ⟨?_, ?_, ?_⟩
  · intro steps sql request s made
    have hsupport : s.support = support := support_after support source steps
    have hfailed := make_failed_iff s sql request
    rw [hsupport] at hfailed
    refine ⟨?_, hfailed, ?_⟩
    · simp only [made, step_make]
    · intro hr
      simp only [made, step_make, hsupport]
      cases hrequest : request.selection support.isLoaded with
      | ok selection => rfl
      | error e => exact absurd (Refused.of_error hrequest) (hr e)
  · intro before between sql request selection number a hs hn hu s answer
    refine ⟨?_, previouslyFailed_iff hs hn hu a, answer_failures hs hn hu a, ?_⟩
    · intro cause
      refine (metadata_iff hs hn hu a cause).trans (and_congr_right fun _ => ?_)
      rw [outcomeAfter, outcome_eq_error_iff]
      simp only [Failure.metadata.injEq, exists_eq_right', s]
    · intro hl
      exact answer_of_not_isLookedUp hs hn hu hl a
  · intro σ b sql request q hq states w
    obtain ⟨selection, -, rfl, hs⟩ := exists_of_make hq
    refine ⟨fun e => answered_eq_error_iff hs states w, ?_⟩
    intro hl
    exact exists_answered hs hl sql states w

/-- A query that is used up while looking up fails is told the cause; if it has been asked before,
it is told that it has failed, though the source works again. -/
theorem failures_around_recovery :
    let source := Source.catalog ⟨[Table.ofNames "T".toList ["id".toList]]⟩
    let update := Step.make "UPDATE t SET a = 1".toList (.positions (some [1]))
    ((after .builtin source [update, .fail true]).step (.use 0)).2 =
        .failed (.metadata "connection reset") ∧
      ((after .builtin source [update, .fail true, .text 0, .fail false]).step (.use 0)).2 =
        .failed .previouslyFailed := by
  intro source update
  have law := (failures_exact .builtin source).2.1 []
  have hfirst := law [.fail true] "UPDATE t SET a = 1".toList (.positions (some [1]))
    (.positions [1]) 0 .use rfl rfl (by decide)
  have htext := law [.fail true] "UPDATE t SET a = 1".toList (.positions (some [1]))
    (.positions [1]) 0 .text rfl rfl (by decide)
  have hlater := law [.fail true, .text 0, .fail false] "UPDATE t SET a = 1".toList
    (.positions (some [1])) (.positions [1]) 0 .use rfl rfl (by decide)
  have hread : statement? .builtin "UPDATE t SET a = 1".toList =
      some ⟨.update, none, "t".toList, false⟩ := by decide +kernel
  have hunasked : ∀ c : Accessor, c.on 0 ∉ [Step.fail true] := by
    intro c
    cases c <;> decide
  have hfails := (hfirst.1 "connection reset").2 ⟨hunasked, rfl, _, hread, rfl, rfl⟩
  have hfailed := (htext.1 "connection reset").2 ⟨hunasked, rfl, _, hread, rfl, rfl⟩
  exact ⟨hfails, hlater.2.1.2 ⟨[.fail true], .text, [.fail false], _, rfl, hfailed⟩⟩

end GeneratedKeys.Session
