import GeneratedKeys.Proofs.Outcome
import GeneratedKeys.Session

/-!
# Asking the queries of a session

Three steps ask a query for its result. They differ in what they answer and in what they leave of
the query, but not in what processing comes to: the first one fixes the outcome, and each later one
recalls it. No step but these and the making of the query touches a query's place.
-/
namespace GeneratedKeys

namespace Query

/-- What a later accessor makes of an outcome. -/
def recalled : Except Failure Result → Except Failure Result
  | .ok r => .ok r
  | .error _ => .error .previouslyFailed

theorem process_of_progress {m : Type → Type} [Monad m] {b : Backend m} {q : Query}
    {o : Except Failure Result} (h : q.progress = .ofOutcome o) :
    q.process b = pure (q, recalled o) := by
  cases o with
  | ok r => simp only [process, h, Progress.ofOutcome, recalled]
  | error e => simp only [process, h, Progress.ofOutcome, recalled]

theorem selection_eq_none {request : Request} {selection : Selection}
    (h : request.selection false = .ok selection) : selection = .none := by
  have hw : ∀ w : Wish, w.selection false = .ok selection → selection = .none := by
    intro w hw
    cases w <;> cases hw
    rfl
  cases request with
  | wish w => exact hw w h
  | flag n =>
    simp only [Request.selection] at h
    cases hf : Wish.ofFlag? n with
    | none => simp [hf] at h
    | some w => exact hw w (by simpa [hf] using h)
  | positions wanted => cases h
  | names wanted => cases h

/-- A query as it is made, or one that has been processed. -/
inductive Sound (support : Support) : Query → Prop
  | made (sql : Text) (selection : Selection)
      (h : support.isLoaded = true ∨ selection = .none) : Sound support (ofSelection sql selection)
  | processed (q : Query) (o : Except Failure Result) (h : q.progress = .ofOutcome o) :
      Sound support q

theorem isLoaded_or_eq_none {support : Support} {request : Request} {selection : Selection}
    (h : request.selection support.isLoaded = .ok selection) :
    support.isLoaded = true ∨ selection = .none := by
  cases hl : support.isLoaded with
  | true => exact .inl rfl
  | false => exact .inr (selection_eq_none (hl ▸ h))

theorem progress_ofSelection (sql : Text) (selection : Selection) (o : Except Failure Result) :
    (ofSelection sql selection).progress ≠ .ofOutcome o := by
  cases o <;> simp [ofSelection, Progress.ofOutcome]

end Query

/-- A host as if nothing had been asked of it: the content of its source. -/
def Host.quiet (h : Host) : Host :=
  { h with readerCalls := 0, lookups := 0 }

@[simp] theorem Host.answers_quiet (h : Host) : h.quiet.answers = h.answers := rfl

@[simp] theorem Host.quiet_counting (h : Host) (support : Support) (sql : Text)
    (selection : Query.Selection) : (h.counting support sql selection).quiet = h.quiet := rfl

namespace Session
open Query

/-- The ways of asking a query for its result. -/
inductive Accessor
  | generatesKeys
  | text
  | use
deriving DecidableEq, Repr

namespace Accessor

/-- The step that asks the query of a number. -/
def on (number : Nat) : Accessor → Step
  | .generatesKeys => .generatesKeys number
  | .text => .text number
  | .use => .use number

/-- What is answered where processing has come to an outcome. -/
def answer (a : Accessor) : Except Failure Result → Answer
  | .ok r =>
    match a with
    | .generatesKeys => .generatesKeys r.generatesKeys
    | .text => .text r.sql
    | .use => .result r
  | .error e => .failed e

/-- What is left of a query that has been asked. -/
def leave : Accessor → Query → Option Query
  | .use, _ => none
  | _, q => some q

end Accessor

/-- The number of the query that a step is about. -/
def Step.number? : Step → Option Nat
  | .generatesKeys number | .text number | .use number | .inspect number => some number
  | _ => none

theorem ne_on_of_number? {t : Step} {number : Nat} (h : t.number? ≠ some number) (a : Accessor) :
    t ≠ a.on number := by
  intro ht
  apply h
  rw [ht]
  cases a <;> rfl

variable {s : Session} {number other : Nat} {q : Query} {t : Step}

/-! ### Places -/

theorem lt_length (h : s.query? number = some q) : number < s.queries.length := by
  apply Nat.lt_of_not_le
  intro hn
  simp [query?, List.getElem?_eq_none hn] at h

theorem query?_set (u : Support) (h : Host) (x : Option Query) :
    query? ⟨u, h, s.queries.set number x⟩ other =
      if other = number ∧ number < s.queries.length then x else s.query? other := by
  by_cases hn : other = number
  · subst hn
    by_cases hl : other < s.queries.length <;> simp [query?, hl]
  · simp [query?, hn, List.getElem?_set_ne (Ne.symm hn)]

theorem query?_append (u : Support) (h : Host) (x : Option Query) :
    query? ⟨u, h, s.queries ++ [x]⟩ other =
      if other = s.queries.length then x else s.query? other := by
  rcases Nat.lt_trichotomy other s.queries.length with hl | rfl | hl
  · simp [query?, List.getElem?_append_left hl, Nat.ne_of_lt hl]
  · simp [query?]
  · have hn : (s.queries ++ [x]).length ≤ other := by
      rw [List.length_append, List.length_singleton]
      exact hl
    rw [if_neg (Nat.ne_of_gt hl), query?, query?, List.getElem?_eq_none hn,
      List.getElem?_eq_none (Nat.le_of_lt hl)]

theorem step_on_of_none (h : s.query? number = none) (a : Accessor) :
    s.step (a.on number) = (s, .noQuery) := by
  cases a <;> simp only [Accessor.on, step, ask, h]

theorem step_on_of_some (h : s.query? number = some q) (a : Accessor) :
    s.step (a.on number) =
      (⟨s.support, (s.processed q).2, s.queries.set number (a.leave (s.processed q).1.1)⟩,
        a.answer (s.processed q).1.2) := by
  cases ho : (s.processed q).1.2 <;> cases a <;>
    simp only [Accessor.on, Accessor.answer, Accessor.leave, step, ask, h, ho]

/-! ### What a step can do -/

/-- What a step does to the content of the source. -/
def Step.alter : Step → Host → Host
  | .fail failing, h => { h with failing := failing }
  | .addTable t, h =>
    match h.source.add? t with
    | some source => { h with source := source }
    | none => h
  | _, h => h

theorem step_make (s : Session) (sql : Text) (request : Request) :
    s.step (.make sql request) =
      (⟨s.support, s.host, s.queries ++
        [(request.selection s.support.isLoaded).toOption.map (ofSelection sql)]⟩,
        match request.selection s.support.isLoaded with
        | .ok _ => .made s.queries.length
        | .error e => .failed e) := by
  cases h : request.selection s.support.isLoaded <;>
    simp only [step, make, h, Except.map, Except.toOption, Option.map]

theorem step_addTable (s : Session) (table : Table) :
    s.step (.addTable table) =
      (⟨s.support, Step.alter (.addTable table) s.host, s.queries⟩,
        match s.host.source.add? table with
        | some source => tableAdded source
        | none => .tableRefused) := by
  cases h : s.host.source.add? table <;> simp only [step, Step.alter, h]

/-- What a step does to a session: it makes a query, asks one that is there or is not, or does no
more than to alter the source. -/
inductive Effect (s : Session) : Step → Session → Prop
  | made (sql : Text) (request : Request) :
      Effect s (.make sql request) ⟨s.support, s.host, s.queries ++
        [(request.selection s.support.isLoaded).toOption.map (ofSelection sql)]⟩
  | missing (a : Accessor) (number : Nat) (h : s.query? number = none) :
      Effect s (a.on number) s
  | asked (a : Accessor) (number : Nat) (q : Query) (h : s.query? number = some q) :
      Effect s (a.on number)
        ⟨s.support, (s.processed q).2, s.queries.set number (a.leave (s.processed q).1.1)⟩
  | altered (t : Step) (hm : ∀ sql request, t ≠ .make sql request)
      (ht : ∀ (a : Accessor) number, t ≠ a.on number) :
      Effect s t ⟨s.support, t.alter s.host, s.queries⟩

theorem effect_on (s : Session) (a : Accessor) (number : Nat) :
    Effect s (a.on number) (s.step (a.on number)).1 := by
  cases hq : s.query? number with
  | none =>
    rw [step_on_of_none hq]
    exact .missing a number hq
  | some q =>
    rw [step_on_of_some hq]
    exact .asked a number q hq

theorem effect_step (s : Session) (t : Step) : Effect s t (s.step t).1 := by
  cases t with
  | make sql request =>
    rw [step_make]
    exact .made sql request
  | generatesKeys number => exact effect_on s .generatesKeys number
  | text number => exact effect_on s .text number
  | use number => exact effect_on s .use number
  | inspect number => exact .altered _ (by simp) (by intro a; cases a <;> simp [Accessor.on])
  | calls => exact .altered _ (by simp) (by intro a; cases a <;> simp [Accessor.on])
  | fail failing => exact .altered _ (by simp) (by intro a; cases a <;> simp [Accessor.on])
  | addTable table =>
    rw [step_addTable]
    exact .altered _ (by simp) (by intro a; cases a <;> simp [Accessor.on])

variable {s' : Session}

theorem Effect.support (h : Effect s t s') : s'.support = s.support := by
  cases h <;> rfl

theorem Effect.length (h : Effect s t s') : s.queries.length ≤ s'.queries.length := by
  cases h <;> simp

/-- Only making a query and asking it change what stands in its place. -/
theorem Effect.query? (h : Effect s t s') (hl : number < s.queries.length)
    (ht : ∀ a : Accessor, t ≠ a.on number) : s'.query? number = s.query? number := by
  cases h with
  | made sql request => simp [query?_append, Nat.ne_of_lt hl]
  | missing a k hq => rfl
  | asked a k q hq =>
    have hne : number ≠ k := by
      intro he
      exact ht a (he ▸ rfl)
    simp [query?_set, hne]
  | altered t hm ht => rfl

/-! ### Sound sessions -/

/-- Every query is as it was made or has been processed. -/
def Valid (s : Session) : Prop :=
  ∀ number q, s.query? number = some q → q.Sound s.support

theorem processed_made (s : Session) {sql : Text} {selection : Selection}
    (h : s.support.isLoaded = true ∨ selection = .none) :
    s.processed (ofSelection sql selection) =
      ((settled s.support s.host.answers sql selection,
        outcome s.support s.host.answers sql selection),
        s.host.counting s.support sql selection) :=
  Host.run_process s.host sql h

theorem processed_again (s : Session) {o : Except Failure Result}
    (h : q.progress = .ofOutcome o) : s.processed q = ((q, recalled o), s.host) := by
  rw [processed, process_of_progress h]
  rfl

/-- Processing leaves a processed query. -/
theorem progress_processed (hq : q.Sound s.support) :
    ∃ o, (s.processed q).1.1.progress = .ofOutcome o := by
  cases hq with
  | made sql selection h =>
    rw [processed_made s h]
    exact ⟨_, rfl⟩
  | processed q o h =>
    rw [processed_again s h]
    exact ⟨o, h⟩

/-- Processing leaves the content of the source as it is. -/
theorem quiet_processed (hq : q.Sound s.support) : (s.processed q).2.quiet = s.host.quiet := by
  cases hq with
  | made sql selection h => rw [processed_made s h, Host.quiet_counting]
  | processed q o h => rw [processed_again s h]

theorem valid_start (support : Support) (source : Source) : Valid (start support source) := by
  intro number q h
  simp [start, query?] at h

theorem Effect.valid (h : Effect s t s') (hv : Valid s) : Valid s' := by
  intro number q hq
  cases h with
  | made sql request =>
    rw [query?_append] at hq
    split at hq
    · obtain ⟨selection, hs, rfl⟩ := Option.map_eq_some_iff.1 hq
      cases hr : request.selection s.support.isLoaded with
      | error e => simp [hr, Except.toOption] at hs
      | ok u =>
        simp only [hr, Except.toOption, Option.some.injEq] at hs
        exact .made sql selection (isLoaded_or_eq_none (hs ▸ hr))
    · exact hv number q hq
  | missing a k hk => exact hv number q hq
  | asked a k p hp =>
    rw [query?_set] at hq
    split at hq
    · obtain ⟨o, ho⟩ := progress_processed (hv k p hp)
      cases a with
      | use => cases hq
      | generatesKeys => cases hq; exact .processed _ o ho
      | text => cases hq; exact .processed _ o ho
    · exact hv number q hq
  | altered t hm ht => exact hv number q hq

theorem alter_quiet (t : Step) (h : Host) : (t.alter h).quiet = t.alter h.quiet := by
  cases t with
  | addTable table =>
    simp only [Step.alter, Host.quiet]
    cases h.source.add? table <;> rfl
  | _ => rfl

theorem alter_on (a : Accessor) (number : Nat) (h : Host) : (a.on number).alter h = h := by
  cases a <;> rfl

theorem alter_of_ne {t : Step} (hf : ∀ failing, t ≠ .fail failing)
    (ht : ∀ table, t ≠ .addTable table) (h : Host) : t.alter h = h := by
  cases t with
  | fail failing => exact absurd rfl (hf failing)
  | addTable table => exact absurd rfl (ht table)
  | _ => rfl

/-- Only a step on the source changes its content. -/
theorem Effect.quiet (h : Effect s t s') (hv : Valid s) :
    s'.host.quiet = t.alter s.host.quiet := by
  cases h with
  | made sql request => rfl
  | missing a number hq => rw [alter_on]
  | asked a number q hq => rw [alter_on, quiet_processed (hv number q hq)]
  | altered t hm ht => exact alter_quiet t s.host

/-! ### Runs -/

theorem run_append (s : Session) (xs ys : List Step) :
    (run s (xs ++ ys)).1 = (run (run s xs).1 ys).1 := by
  induction xs generalizing s with
  | nil => rfl
  | cons x xs ih => exact ih (s.step x).1

theorem valid_run (steps : List Step) (hv : Valid s) : Valid (run s steps).1 := by
  induction steps generalizing s with
  | nil => exact hv
  | cons t steps ih => exact ih ((effect_step s t).valid hv)

theorem support_run (s : Session) (steps : List Step) :
    (run s steps).1.support = s.support := by
  induction steps generalizing s with
  | nil => rfl
  | cons t steps ih => exact (ih (s.step t).1).trans (effect_step s t).support

theorem quiet_run (steps : List Step) (hv : Valid s) :
    (run s steps).1.host.quiet = steps.foldl (fun h t => t.alter h) s.host.quiet := by
  induction steps generalizing s with
  | nil => rfl
  | cons t steps ih =>
    have h := effect_step s t
    rw [List.foldl_cons, ← h.quiet hv]
    exact ih (h.valid hv)

theorem query?_run (steps : List Step) (hl : number < s.queries.length)
    (ht : ∀ a : Accessor, a.on number ∉ steps) :
    (run s steps).1.query? number = s.query? number := by
  induction steps generalizing s with
  | nil => rfl
  | cons t steps ih =>
    have h := effect_step s t
    have hfirst : (s.step t).1.query? number = s.query? number :=
      h.query? hl fun a ha => ht a (ha ▸ List.mem_cons_self)
    have hrest := ih (Nat.lt_of_lt_of_le hl h.length) fun a ha => ht a (List.mem_cons_of_mem t ha)
    exact hrest.trans hfirst

/-- A processed query stays as it is until it is used up. -/
theorem query?_run_of_progress (steps : List Step) {o : Except Failure Result}
    (hq : s.query? number = some q) (ho : q.progress = .ofOutcome o)
    (hu : Accessor.use.on number ∉ steps) : (run s steps).1.query? number = some q := by
  induction steps generalizing s with
  | nil => exact hq
  | cons t steps ih =>
    have hfirst : (s.step t).1.query? number = some q := by
      by_cases ht : ∃ a : Accessor, t = a.on number
      · obtain ⟨a, rfl⟩ := ht
        rw [step_on_of_some hq, query?_set, processed_again s ho, if_pos ⟨rfl, lt_length hq⟩]
        cases a with
        | use => exact absurd List.mem_cons_self hu
        | generatesKeys => rfl
        | text => rfl
      · rw [(effect_step s t).query? (lt_length hq) fun a ha => ht ⟨a, ha⟩]
        exact hq
    exact ih hfirst fun h => hu (List.mem_cons_of_mem t h)

end Session
end GeneratedKeys
