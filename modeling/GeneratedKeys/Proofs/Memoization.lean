import GeneratedKeys.Proofs.Asking

/-!
# Memoization and isolation

What is told here of a whole session follows from its steps. The first accessor on a query answers
from the outcome at that moment, and the later ones recall it. What has been done to one query
cannot be noticed at another, except by counting calls. The calls are counted against a journal,
which notes from the steps alone which queries have been made and which of them asked.
-/
namespace GeneratedKeys.Session
open Query

variable {s s' : Session} {number : Nat}

/-! ### The first accessor and the later ones -/

theorem first_answer {sql : Text} {selection : Selection}
    (hq : s.query? number = some (ofSelection sql selection))
    (hs : s.support.isLoaded = true ∨ selection = .none) (a : Accessor) :
    (s.step (a.on number)).2 = a.answer (outcome s.support s.host.answers sql selection) := by
  rw [step_on_of_some hq, processed_made s hs]

theorem query?_of_first {sql : Text} {selection : Selection}
    (hq : s.query? number = some (ofSelection sql selection))
    (hs : s.support.isLoaded = true ∨ selection = .none) {a : Accessor} (ha : a ≠ .use) :
    (s.step (a.on number)).1.query? number =
      some (settled s.support s.host.answers sql selection) := by
  rw [step_on_of_some hq, processed_made s hs, query?_set, if_pos ⟨rfl, lt_length hq⟩]
  cases a with
  | use => exact absurd rfl ha
  | generatesKeys => rfl
  | text => rfl

theorem later_answer {q : Query} {o : Except Failure Result} (hq : s.query? number = some q)
    (ho : q.progress = .ofOutcome o) (a : Accessor) :
    (s.step (a.on number)).2 = a.answer (recalled o) := by
  rw [step_on_of_some hq, processed_again s ho]

/-! ### Isolation -/

/-- Two sessions that differ at most in one query and in the calls counted. -/
structure Agree (number : Nat) (s s' : Session) : Prop where
  support : s.support = s'.support
  quiet : s.host.quiet = s'.host.quiet
  length : s.queries.length = s'.queries.length
  query? : ∀ other ≠ number, s.query? other = s'.query? other

theorem Agree.refl (number : Nat) (s : Session) : Agree number s s :=
  ⟨rfl, rfl, rfl, fun _ _ => rfl⟩

theorem Agree.answers (h : Agree number s s') : s.host.answers = s'.host.answers := by
  rw [← s.host.answers_quiet, h.quiet, s'.host.answers_quiet]

/-- What processing comes to does not depend on what sessions that agree differ in. -/
theorem Agree.processed (h : Agree number s s') {q : Query} (hq : q.Sound s.support) :
    (s.processed q).1 = (s'.processed q).1 := by
  cases hq with
  | made sql selection hs =>
    rw [processed_made s hs, processed_made s' (h.support ▸ hs), h.support, h.answers]
  | processed q o ho => rw [processed_again s ho, processed_again s' ho]

/-- A step on the one query keeps two sessions in agreement. -/
theorem Agree.skip (h : Agree number s s') (hv : Valid s) {t : Step}
    (ht : t.number? = some number) : Agree number (s.step t).1 s' := by
  have he := effect_step s t
  revert he
  generalize (s.step t).1 = u
  intro he
  cases he with
  | made sql request => cases ht
  | missing a k hk => exact h
  | asked a k q hq =>
    have hk : k = number := by cases a <;> exact Option.some.inj ht
    subst hk
    refine ⟨h.support, ?_, by simpa using h.length, ?_⟩
    · rw [← h.quiet, ← quiet_processed (hv k q hq)]
    · intro other ho
      rw [query?_set, if_neg fun hc => ho hc.1]
      exact h.query? other ho
  | altered t hm hn =>
    rw [alter_of_ne]
    · exact h
    · intro failing he
      rw [he] at ht
      cases ht
    · intro table he
      rw [he] at ht
      cases ht

theorem Agree.alter (h : Agree number s s') (t : Step) :
    (t.alter s.host).quiet = (t.alter s'.host).quiet := by
  rw [alter_quiet, alter_quiet, h.quiet]

theorem Agree.ask (h : Agree number s s') (hv : Valid s) (hv' : Valid s') (a : Accessor) {k : Nat}
    (hk : k ≠ number) :
    Agree number (s.step (a.on k)).1 (s'.step (a.on k)).1 ∧
      (s.step (a.on k)).2 = (s'.step (a.on k)).2 := by
  cases hq : s.query? k with
  | none =>
    rw [step_on_of_none hq, step_on_of_none (h.query? k hk ▸ hq)]
    exact ⟨h, rfl⟩
  | some q =>
    have hq' : s'.query? k = some q := h.query? k hk ▸ hq
    have hp := h.processed (hv k q hq)
    rw [step_on_of_some hq, step_on_of_some hq', hp]
    refine ⟨⟨h.support, ?_, by simpa using h.length, ?_⟩, rfl⟩
    · exact (quiet_processed (hv k q hq)).trans
        (h.quiet.trans (quiet_processed (hv' k q hq')).symm)
    · intro other ho
      rw [query?_set, query?_set, h.length]
      split
      · rfl
      · exact h.query? other ho

/-- A step on nothing that two sessions differ in keeps them in agreement and answers the same. -/
theorem Agree.step (h : Agree number s s') (hv : Valid s) (hv' : Valid s') {t : Step}
    (ht : t.number? ≠ some number) :
    Agree number (s.step t).1 (s'.step t).1 ∧
      (t ≠ .calls → (s.step t).2 = (s'.step t).2) := by
  have hask : ∀ (a : Accessor) (k : Nat), t = a.on k →
      Agree number (s.step t).1 (s'.step t).1 ∧
        (t ≠ .calls → (s.step t).2 = (s'.step t).2) := by
    intro a k hk
    subst hk
    have hne : k ≠ number := by
      intro he
      exact ne_on_of_number? ht a (he ▸ rfl)
    obtain ⟨hstate, hanswer⟩ := h.ask hv hv' a hne
    exact ⟨hstate, fun _ => hanswer⟩
  cases t with
  | make sql request =>
    rw [step_make, step_make, ← h.support, ← h.length]
    refine ⟨⟨rfl, h.quiet, ?_, ?_⟩, fun _ => rfl⟩
    · simp [h.length]
    · intro other ho
      rw [query?_append, query?_append, h.length, h.query? other ho]
  | generatesKeys k => exact hask .generatesKeys k rfl
  | text k => exact hask .text k rfl
  | use k => exact hask .use k rfl
  | inspect k =>
    have hne : k ≠ number := fun hk => ht (hk ▸ rfl)
    refine ⟨h, fun _ => ?_⟩
    simp only [Session.step, h.query? k hne]
  | calls => exact ⟨h, fun hc => absurd rfl hc⟩
  | fail failing => exact ⟨⟨h.support, h.alter (.fail failing), h.length, h.query?⟩, fun _ => rfl⟩
  | addTable table =>
    have hsource : s.host.source = s'.host.source := by
      have hq : s.host.quiet.source = s'.host.quiet.source := by rw [h.quiet]
      exact hq
    rw [step_addTable, step_addTable, hsource]
    exact ⟨⟨h.support, h.alter (.addTable table), h.length, h.query?⟩, fun _ => rfl⟩

/-- What has been done to one query is noticed at no other. -/
theorem agree_purged (support : Support) (source : Source) (number : Nat) (steps : List Step) :
    Agree number (run (start support source) steps).1
      (run (start support source) (steps.filter fun t => t.number? ≠ some number)).1 := by
  suffices hall : ∀ s s' : Session, Agree number s s' → Valid s → Valid s' →
      Agree number (run s steps).1
        (run s' (steps.filter fun t => t.number? ≠ some number)).1 by
    have hv := valid_start support source
    exact hall _ _ (.refl number _) hv hv
  induction steps with
  | nil => exact fun _ _ h _ _ => h
  | cons t steps ih =>
    intro s s' h hv hv'
    have hvt := (effect_step s t).valid hv
    by_cases ht : t.number? = some number
    · rw [List.filter_cons_of_neg (by simpa using ht)]
      exact ih _ _ (h.skip hv ht) hvt hv'
    · rw [List.filter_cons_of_pos (by simpa using ht)]
      exact ih _ _ (h.step hv hv' ht).1 hvt ((effect_step s' t).valid hv')

/-! ### Counting calls -/

/-- A query as those who make and ask it know it. -/
structure Entry where
  sql : Text
  selection : Selection
  asked : Bool
deriving DecidableEq, Repr

/-- Notes that a query has been asked. -/
def Entry.mark (e : Entry) : Entry :=
  { e with asked := true }

/-- Whether a query has been asked, and its outcome depends on an answer of the source. -/
def Entry.isConsulting (support : Support) (e : Entry) : Bool :=
  e.asked && consults support e.sql e.selection

/-- Notes a step. A query that cannot be made takes a place too. -/
def record (canRead : Bool) (entries : List (Option Entry)) : Step → List (Option Entry)
  | .make sql request =>
    entries ++ [(request.selection canRead).toOption.map fun selection => ⟨sql, selection, false⟩]
  | .generatesKeys number | .text number | .use number =>
    entries.modify number (Option.map Entry.mark)
  | _ => entries

/-- The queries that steps make, by their numbers, and which of them they ask. -/
def journal (canRead : Bool) (steps : List Step) : List (Option Entry) :=
  steps.foldl (record canRead) []

/-- What an entry says of the query in a place. -/
inductive Fits (support : Support) : Option Query → Option Entry → Prop
  | absent : Fits support none none
  | made (sql : Text) (selection : Selection)
      (h : support.isLoaded = true ∨ selection = .none) :
      Fits support (some (ofSelection sql selection)) (some ⟨sql, selection, false⟩)
  | processed (q : Query) (o : Except Failure Result) (h : q.progress = .ofOutcome o) (e : Entry)
      (ha : e.asked = true) : Fits support (some q) (some e)
  | used (e : Entry) (ha : e.asked = true) : Fits support none (some e)

/-- A session and the journal of the steps that led to it. -/
structure Tracks (s : Session) (entries : List (Option Entry)) : Prop where
  length : entries.length = s.queries.length
  fits : ∀ number, Fits s.support (s.query? number) entries[number]?.join
  readerCalls : s.host.readerCalls =
    if s.support.isLoaded then entries.countP (·.any Entry.asked) else 0
  lookups : s.host.lookups = entries.countP (·.any (Entry.isConsulting s.support))

theorem countP_modify {α : Type} (p : α → Bool) (f : α → α) {l : List α} {i : Nat} {x : α}
    (h : l[i]? = some x) :
    (l.modify i f).countP p + (if p x then 1 else 0) = l.countP p + if p (f x) then 1 else 0 := by
  induction l generalizing i with
  | nil => simp at h
  | cons y l ih =>
    cases i with
    | zero =>
      obtain rfl : y = x := by simpa using h
      simp only [List.modify_zero_cons, List.countP_cons]
      omega
    | succ i =>
      have := ih (i := i) (by simpa using h)
      simp only [List.modify_succ_cons, List.countP_cons]
      omega

theorem record_on (canRead : Bool) (entries : List (Option Entry)) (a : Accessor) (number : Nat) :
    record canRead entries (a.on number) = entries.modify number (Option.map Entry.mark) := by
  cases a <;> rfl

theorem modify_mark {entries : List (Option Entry)} {number : Nat}
    (h : ∀ e, entries[number]?.join = some e → e.asked = true) :
    entries.modify number (Option.map Entry.mark) = entries := by
  apply List.ext_getElem?
  intro i
  rw [List.getElem?_modify]
  split
  · rename_i hi
    subst hi
    rcases hx : entries[number]? with _ | _ | e
    · rfl
    · rfl
    · have ha : e.asked = true := h e (by simp [hx])
      simp [Entry.mark, ← ha]
  · simp

theorem Fits.of_made {support : Support} {sql : Text} {selection : Selection} {e : Option Entry}
    (h : Fits support (some (ofSelection sql selection)) e) : e = some ⟨sql, selection, false⟩ := by
  generalize hq : ofSelection sql selection = q at h
  cases h with
  | made sql' selection' hs =>
    simp only [ofSelection, Query.mk.injEq] at hq
    rw [hq.1, hq.2.1]
  | processed q o ho e ha => exact absurd (hq ▸ ho) (progress_ofSelection sql selection o)

/-- An entry is marked once its query has been processed or used up. -/
theorem Fits.asked {support : Support} {q : Option Query} {e : Entry}
    (h : Fits support q (some e)) (hq : ∀ sql selection, q ≠ some (ofSelection sql selection)) :
    e.asked = true := by
  cases h with
  | made sql selection hs => exact absurd rfl (hq sql selection)
  | processed q o ho e ha => exact ha
  | used e ha => exact ha

theorem tracks_start (support : Support) (source : Source) : Tracks (start support source) [] where
  length := rfl
  fits _ := .absent
  readerCalls := by
    simp only [start, Host.ofSource, List.countP_nil]
    exact (ite_self 0).symm
  lookups := rfl

variable {entries : List (Option Entry)}

theorem Tracks.made (h : Tracks s entries) (sql : Text) (request : Request) :
    Tracks ⟨s.support, s.host, s.queries ++
        [(request.selection s.support.isLoaded).toOption.map (ofSelection sql)]⟩
      (record s.support.isLoaded entries (.make sql request)) := by
  have hnew : ∀ p : Entry → Bool, (∀ selection, p ⟨sql, selection, false⟩ = false) →
      (record s.support.isLoaded entries (.make sql request)).countP (·.any p) =
        entries.countP (·.any p) := by
    intro p hp
    cases hs : request.selection s.support.isLoaded <;>
      simp [record, hs, Except.toOption, hp]
  constructor
  · simp [record, h.length]
  · intro other
    rw [query?_append]
    by_cases ho : other = s.queries.length
    · rw [if_pos ho, ho, ← h.length]
      cases hs : request.selection s.support.isLoaded with
      | error e => simpa [record, hs, Except.toOption] using Fits.absent
      | ok selection =>
        simpa [record, hs, Except.toOption] using Fits.made sql selection (isLoaded_or_eq_none hs)
    · have hx : (record s.support.isLoaded entries (.make sql request))[other]? =
          entries[other]? := by
        rw [← h.length] at ho
        rcases Nat.lt_or_gt_of_ne ho with hl | hl
        · exact List.getElem?_append_left hl
        · rw [List.getElem?_eq_none (Nat.le_of_lt hl), List.getElem?_eq_none]
          simpa [record, Nat.succ_le_iff] using hl
      rw [if_neg ho, hx]
      exact h.fits other
  · rw [hnew _ fun _ => rfl]
    exact h.readerCalls
  · rw [hnew _ fun _ => rfl]
    exact h.lookups

/-- A query that has been processed or used up is not noted a second time. -/
theorem Tracks.noted (h : Tracks s entries) {number : Nat} (a : Accessor)
    (hq : ∀ sql selection, s.query? number ≠ some (ofSelection sql selection)) :
    record s.support.isLoaded entries (a.on number) = entries := by
  rw [record_on]
  apply modify_mark
  intro e he
  have hf := h.fits number
  rw [he] at hf
  exact hf.asked hq

theorem Tracks.first (h : Tracks s entries) {number : Nat} (a : Accessor) {sql : Text}
    {selection : Selection} (hq : s.query? number = some (ofSelection sql selection))
    (hs : s.support.isLoaded = true ∨ selection = .none) :
    Tracks (s.step (a.on number)).1 (record s.support.isLoaded entries (a.on number)) := by
  have he : entries[number]? = some (some ⟨sql, selection, false⟩) := by
    have hf := h.fits number
    rw [hq] at hf
    exact Option.join_eq_some_iff.1 hf.of_made
  rw [step_on_of_some hq, record_on, processed_made s hs]
  constructor
  · simp [h.length]
  · intro other
    rw [query?_set]
    by_cases ho : other = number
    · subst ho
      rw [if_pos ⟨rfl, lt_length hq⟩, List.getElem?_modify_eq, he]
      cases a with
      | use => exact .used _ rfl
      | generatesKeys => exact .processed _ (outcome s.support s.host.answers sql selection) rfl _ rfl
      | text => exact .processed _ (outcome s.support s.host.answers sql selection) rfl _ rfl
    · rw [if_neg fun hc => ho hc.1, List.getElem?_modify_ne _ _ (Ne.symm ho)]
      exact h.fits other
  · have hc := countP_modify (·.any Entry.asked) (Option.map Entry.mark) he
    have hr := h.readerCalls
    simp only [Option.map_some, Option.any_some, Entry.mark, Bool.false_eq_true, if_false,
      if_true, Nat.add_zero] at hc
    simp only [Host.counting, h.readerCalls, hc]
    split <;> rfl
  · have hc := countP_modify (·.any (Entry.isConsulting s.support)) (Option.map Entry.mark) he
    simp only [Option.map_some, Option.any_some, Entry.isConsulting, Entry.mark, Bool.false_and,
      Bool.true_and, Bool.false_eq_true, if_false, Nat.add_zero] at hc
    simp only [Host.counting, h.lookups]
    exact hc.symm

theorem Tracks.again (h : Tracks s entries) {number : Nat} (a : Accessor) {q : Query}
    (hq : s.query? number = some q) {o : Except Failure Result} (ho : q.progress = .ofOutcome o) :
    Tracks (s.step (a.on number)).1 (record s.support.isLoaded entries (a.on number)) := by
  have hne : ∀ sql selection, s.query? number ≠ some (ofSelection sql selection) := by
    intro sql selection he
    rw [hq, Option.some.injEq] at he
    exact progress_ofSelection sql selection o (he ▸ ho)
  rw [h.noted a hne, step_on_of_some hq, processed_again s ho]
  refine ⟨by simpa using h.length, ?_, h.readerCalls, h.lookups⟩
  intro other
  have hf := h.fits other
  rw [query?_set]
  split
  · rename_i hc
    obtain ⟨rfl, -⟩ := hc
    rw [hq] at hf
    cases a with
    | generatesKeys => exact hf
    | text => exact hf
    | use =>
      cases he : entries[other]?.join with
      | none => exact .absent
      | some e =>
        rw [he] at hf
        exact .used e (hf.asked (hq ▸ hne))
  · exact hf

theorem Tracks.altered (h : Tracks s entries) {t : Step} (hm : ∀ sql request, t ≠ .make sql request)
    (hn : ∀ (a : Accessor) number, t ≠ a.on number) :
    Tracks ⟨s.support, t.alter s.host, s.queries⟩ (record s.support.isLoaded entries t) := by
  have hr : record s.support.isLoaded entries t = entries := by
    cases t with
    | make sql request => exact absurd rfl (hm sql request)
    | generatesKeys number => exact absurd rfl (hn .generatesKeys number)
    | text number => exact absurd rfl (hn .text number)
    | use number => exact absurd rfl (hn .use number)
    | _ => rfl
  rw [hr]
  cases t with
  | addTable table =>
    simp only [Step.alter]
    split
    · exact ⟨h.length, h.fits, h.readerCalls, h.lookups⟩
    · exact h
  | _ => exact ⟨h.length, h.fits, h.readerCalls, h.lookups⟩

theorem Tracks.step (h : Tracks s entries) (hv : Valid s) (t : Step) :
    Tracks (s.step t).1 (record s.support.isLoaded entries t) := by
  have he := effect_step s t
  generalize hu : (s.step t).1 = u at he
  cases he with
  | made sql request => exact h.made sql request
  | missing a number hq =>
    rw [h.noted a (by simp [hq])]
    exact h
  | asked a number q hq =>
    cases hv number q hq with
    | made sql selection hs => exact hu ▸ h.first a hq hs
    | processed q o ho => exact hu ▸ h.again a hq ho
  | altered t hm hn => exact h.altered hm hn

theorem tracks_run (support : Support) (source : Source) (steps : List Step) :
    Tracks (run (start support source) steps).1 (journal support.isLoaded steps) := by
  suffices hall : ∀ s entries, Tracks s entries → Valid s →
      Tracks (run s steps).1 (steps.foldl (record s.support.isLoaded) entries) from
    hall _ _ (tracks_start support source) (valid_start support source)
  induction steps with
  | nil => exact fun _ _ h _ => h
  | cons t steps ih =>
    intro s entries h hv
    have he := effect_step s t
    have hrest := ih _ _ (h.step hv t) (he.valid hv)
    rw [he.support] at hrest
    exact hrest

/-! ### Whole sessions -/

/-- The content of a source after steps. -/
def content (source : Source) (steps : List Step) : Host :=
  steps.foldl (fun h t => t.alter h) (Host.ofSource source)

/-- The session after steps from the start. -/
def after (support : Support) (source : Source) (steps : List Step) : Session :=
  (run (start support source) steps).1

theorem after_append (support : Support) (source : Source) (xs ys : List Step) :
    after support source (xs ++ ys) = (run (after support source xs) ys).1 :=
  run_append _ xs ys

theorem valid_after (support : Support) (source : Source) (steps : List Step) :
    Valid (after support source steps) :=
  valid_run steps (valid_start support source)

theorem support_after (support : Support) (source : Source) (steps : List Step) :
    (after support source steps).support = support :=
  support_run _ steps

theorem quiet_after (support : Support) (source : Source) (steps : List Step) :
    (after support source steps).host.quiet = content source steps :=
  quiet_run steps (valid_start support source)

theorem answers_after (support : Support) (source : Source) (steps : List Step) :
    (after support source steps).host.answers = (content source steps).answers := by
  rw [← quiet_after support source steps, Host.answers_quiet]

/-- A query stands in its place as it was made until it is asked. -/
theorem query?_after_made {support : Support} {source : Source} {before between : List Step}
    {sql : Text} {request : Request} {selection : Selection} {number : Nat}
    (hs : request.selection support.isLoaded = .ok selection)
    (hn : ((after support source before).step (.make sql request)).2 = .made number)
    (hb : ∀ c : Accessor, c.on number ∉ between) :
    (after support source (before ++ .make sql request :: between)).query? number =
      some (ofSelection sql selection) := by
  have hm := step_make (after support source before) sql request
  rw [support_after, hs] at hm
  rw [hm] at hn
  obtain rfl : (after support source before).queries.length = number := by simpa using hn
  rw [after_append, run, hm]
  rw [query?_run between (by simp) hb, query?_append, if_pos rfl]
  rfl

/-- The first accessor on a query fixes its outcome, as a function of the query and the content of
the source at that moment; the later ones recall it. Leaving out what is done to one query changes
neither the content nor another query nor what is answered elsewhere. A step changes no query but
its own, and only a step on the source changes the content. Calls are counted once for each query
processed, and once for each of these that has consulted the source. -/
theorem memoized_and_isolated (support : Support) (source : Source) :
    (∀ (before between later : List Step) (sql : Text) (request : Request) (selection : Selection)
        (number : Nat) (a b : Accessor),
      request.selection support.isLoaded = .ok selection →
      ((after support source before).step (.make sql request)).2 = .made number →
      (∀ c : Accessor, c.on number ∉ between) →
      let first := before ++ .make sql request :: between
      let o := outcome support (content source first).answers sql selection
      ((after support source first).step (a.on number)).2 = a.answer o ∧
        (a ≠ .use → Accessor.use.on number ∉ later →
          ((after support source (first ++ a.on number :: later)).step (b.on number)).2 =
            b.answer (recalled o))) ∧
    (∀ (steps : List Step) (number : Nat),
      let s := after support source steps
      let s' := after support source (steps.filter fun t => t.number? ≠ some number)
      s.host.quiet = s'.host.quiet ∧
        (∀ other ≠ number, s.query? other = s'.query? other) ∧
        ∀ t : Step, t.number? ≠ some number → t ≠ .calls → (s.step t).2 = (s'.step t).2) ∧
    (∀ (steps : List Step) (t : Step),
      let s := after support source steps
      (∀ other < s.queries.length, t.number? ≠ some other →
        (s.step t).1.query? other = s.query? other) ∧
        ((∀ failing, t ≠ .fail failing) → (∀ table, t ≠ .addTable table) →
          (s.step t).1.host.quiet = s.host.quiet)) ∧
    ∀ steps : List Step,
      let s := after support source steps
      let entries := journal support.isLoaded steps
      s.host.quiet = content source steps ∧
        s.host.readerCalls = (if support.isLoaded then entries.countP (·.any Entry.asked) else 0) ∧
        s.host.lookups = entries.countP (·.any (Entry.isConsulting support)) := by
  refine ⟨?_, ?_, ?_, ?_⟩
  · intro before between later sql request selection number a b hs hn hb
    have hq := query?_after_made hs hn hb
    have hl : (after support source (before ++ .make sql request :: between)).support.isLoaded =
        true ∨ selection = .none := by
      rw [support_after]
      exact isLoaded_or_eq_none hs
    dsimp only
    rw [← answers_after support]
    refine ⟨?_, ?_⟩
    · rw [first_answer hq hl a, support_after]
    · intro ha hu
      have hfirst := query?_of_first hq hl ha
      have hlater := query?_run_of_progress later hfirst rfl hu
      rw [support_after] at hlater
      rw [after_append]
      exact later_answer hlater rfl b
  · intro steps number
    have h := agree_purged support source number steps
    refine ⟨h.quiet, h.query?, ?_⟩
    intro t ht hc
    exact (h.step (valid_after support source steps) (valid_after support source _) ht).2 hc
  · intro steps t
    have he := effect_step (after support source steps) t
    refine ⟨fun other hl ht => he.query? hl (ne_on_of_number? ht), ?_⟩
    intro hf ht
    rw [he.quiet (valid_after support source steps), alter_of_ne hf ht]
  · intro steps
    have h := tracks_run support source steps
    have hr := h.readerCalls
    have hl := h.lookups
    rw [support_run] at hr hl
    exact ⟨quiet_after support source steps, hr, hl⟩

/-- A lookup that has failed is not tried again once the source has recovered. -/
theorem failure_recalled_after_recovery :
    let source := Source.catalog ⟨[Table.ofNames "t".toList ["a".toList]]⟩
    let insert := Step.make "INSERT INTO t (b) VALUES (1)".toList (.wish .returnKeys)
    ((after .builtin source [insert, .fail true]).step (.generatesKeys 0)).2 =
        .failed (.metadata "connection reset") ∧
      ((after .builtin source [insert, .fail true, .generatesKeys 0, .fail false]).step (.text 0)).2 =
        .failed .previouslyFailed := by
  intro source insert
  have h := (memoized_and_isolated .builtin source).1 [] [.fail true] [.fail false]
    "INSERT INTO t (b) VALUES (1)".toList (.wish .returnKeys) .all 0 .generatesKeys .text rfl rfl
    (by intro c; cases c <;> decide)
  exact ⟨h.1.trans (by decide +kernel), (h.2 (by decide) (by decide)).trans (by decide +kernel)⟩

end GeneratedKeys.Session
