import GeneratedKeys.Catalog.Matcher
import GeneratedKeys.Proofs.Matching
import Mathlib.Control.Monad.Basic
import Mathlib.Data.List.Perm.Subperm
import Mathlib.Data.List.ProdSigma

/-!
# What matching remembers

A catalog matches a name by finding out, for one place after another, whether the rest of the name
is what the rest of the pattern stands for. Matching is told here with a memory that keeps a record
besides: every call, with the answers known when it is made, and every place that is worked out.
Whatever is known at a call is right, and no place is worked out twice.
-/
namespace GeneratedKeys.Catalog
open Pattern

/-- A text can be cut into pieces for which the items of a written pattern stand. A backslash at its
end stands for itself. -/
def Means (pattern name : Text) : Prop :=
  Fits (· == ·) (ofText (.exactly '\x5c') pattern) name

/-! ### Places -/

section
variable {rest name : Text} {c : Char} {i : Nat}

theorem means_nil_iff (hi : i ≤ name.length) : Means [] (name.drop i) ↔ i = name.length := by
  rw [Means, ofText, fits_nil, List.drop_eq_nil_iff]
  omega

/-- The ends of a text are what is behind its places. -/
theorem suffix_drop_iff (s : Text) (hi : i ≤ name.length) :
    s <:+ name.drop i ↔ ∃ k, i ≤ k ∧ k ≤ name.length ∧ s = name.drop k := by
  constructor
  · intro hs
    have hlen := hs.length_le
    rw [List.length_drop] at hlen
    refine ⟨name.length - s.length, by omega, by omega, ?_⟩
    exact List.suffix_iff_eq_drop.1 (hs.trans (List.drop_suffix i name))
  · rintro ⟨k, hik, -, rfl⟩
    have hk : name.drop k = (name.drop i).drop (k - i) := by
      rw [List.drop_drop]
      congr 1
      omega
    rw [hk]
    exact List.drop_suffix _ _

theorem means_anyRun_iff (hi : i ≤ name.length) :
    Means ('%' :: rest) (name.drop i) ↔
      ∃ k ∈ List.range' i (name.length + 1 - i), Means rest (name.drop k) := by
  rw [Means, ofText, fits_anyRun]
  constructor
  · rintro ⟨s, hs, hf⟩
    obtain ⟨k, hik, hk, rfl⟩ := (suffix_drop_iff s hi).1 hs
    exact ⟨k, List.mem_range'_1.2 (by omega), hf⟩
  · rintro ⟨k, hk, hf⟩
    rw [List.mem_range'_1] at hk
    exact ⟨_, (suffix_drop_iff _ hi).2 ⟨k, hk.1, by omega, rfl⟩, hf⟩

theorem means_anyOne_iff :
    Means ('_' :: rest) (name.drop i) ↔ i < name.length ∧ Means rest (name.drop (i + 1)) := by
  rw [Means, ofText]
  by_cases hi : i < name.length
  · rw [List.drop_eq_getElem_cons hi, fits_anyOne_cons]
    exact (and_iff_right hi).symm
  · rw [List.drop_eq_nil_of_le (Nat.le_of_not_lt hi)]
    exact iff_of_false not_fits_anyOne_nil fun h => hi h.1

theorem fits_exactly_drop_iff {items : List Item} :
    Fits (· == ·) (.exactly c :: items) (name.drop i) ↔
      name[i]? = some c ∧ Fits (· == ·) items (name.drop (i + 1)) := by
  by_cases hi : i < name.length
  · rw [List.drop_eq_getElem_cons hi, fits_exactly_cons, List.getElem?_eq_getElem hi, beq_iff_eq,
      Option.some.injEq, @eq_comm _ c]
  · have hle := Nat.le_of_not_lt hi
    rw [List.drop_eq_nil_of_le hle, List.getElem?_eq_none hle]
    exact iff_of_false not_fits_exactly_nil fun h => Option.some_ne_none c h.1.symm

end

/-! ### The record -/

/-- What is remembered, with the calls made so far and the places worked out. -/
structure Record where
  memo : Memo
  calls : List (Place × Memo)
  evaluated : List Place

namespace Record

def start : Record :=
  ⟨∅, [], []⟩

def called (r : Record) (place : Place) : Record :=
  { r with calls := (place, r.memo) :: r.calls }

def noted (r : Record) (place : Place) (found : Bool) : Record :=
  { r with memo := r.memo.insert place found, evaluated := place :: r.evaluated }

end Record

/-- The memory that keeps a record. -/
def recording : Memory (StateM Record) where
  ask place := modifyGet fun r => (r.memo[place]?, r.called place)
  note place found := modify fun r => r.noted place found

/-- Every known answer is for a place of the name and the pattern, and is the right one there. -/
def IsSound (pattern name : Text) (memo : Memo) : Prop :=
  ∀ (i j : Nat) (known : Bool), memo[(i, j)]? = some known →
    i ≤ name.length ∧ j ≤ pattern.length ∧
      (known = true ↔ Means (pattern.drop j) (name.drop i))

/-- A record of matching: at every call what is known is sound, and what is known are the answers of
the places worked out, none of which is worked out twice. -/
structure Record.Valid (pattern name : Text) (r : Record) : Prop where
  sound : IsSound pattern name r.memo
  calls : ∀ call ∈ r.calls,
    call.1.1 ≤ name.length ∧ call.1.2 ≤ pattern.length ∧ IsSound pattern name call.2
  mem_iff : ∀ place, place ∈ r.evaluated ↔ place ∈ r.memo
  nodup : r.evaluated.Nodup

/-- What comes of a record when it is asked for an answer from place `j` of the pattern on. -/
structure Reaches (pattern name : Text) (j : Nat) (r : Record) (holds : Prop)
    (found : Bool × Record) : Prop where
  answer : found.1 = true ↔ holds
  valid : found.2.Valid pattern name
  behind : ∀ place ∈ found.2.evaluated, place ∈ r.evaluated ∨ j ≤ place.2

section
variable {pattern name rest : Text} {i j : Nat} {place : Place} {r : Record} {holds : Prop}

theorem valid_start : Record.start.Valid pattern name where
  sound i j known h := by simp [Record.start] at h
  calls call h := by cases h
  mem_iff place := by simp [Record.start]
  nodup := List.nodup_nil

theorem Record.Valid.called (h : r.Valid pattern name) (hi : i ≤ name.length)
    (hj : j ≤ pattern.length) : (r.called (i, j)).Valid pattern name where
  sound := h.sound
  calls call hcall := by
    rcases List.mem_cons.1 hcall with rfl | hcall
    · exact ⟨hi, hj, h.sound⟩
    · exact h.calls call hcall
  mem_iff := h.mem_iff
  nodup := h.nodup

theorem Record.Valid.noted (h : r.Valid pattern name) (hi : i ≤ name.length)
    (hj : j ≤ pattern.length) (hnew : (i, j) ∉ r.evaluated) {found : Bool}
    (hf : found = true ↔ Means (pattern.drop j) (name.drop i)) :
    (r.noted (i, j) found).Valid pattern name where
  sound i' j' known hk := by
    have hinsert : (r.memo.insert (i, j) found)[(i', j')]? = some known := hk
    rw [Std.TreeMap.getElem?_insert] at hinsert
    split at hinsert
    · next hplace =>
      obtain ⟨rfl, rfl⟩ : i = i' ∧ j = j' := by
        simpa using Std.LawfulEqCmp.eq_of_compare hplace
      obtain rfl : found = known := Option.some.inj hinsert
      exact ⟨hi, hj, hf⟩
    · exact h.sound i' j' known hinsert
  calls := h.calls
  mem_iff place := by
    change place ∈ (i, j) :: r.evaluated ↔ place ∈ r.memo.insert (i, j) found
    rw [List.mem_cons, Std.TreeMap.mem_insert, h.mem_iff, Std.LawfulEqCmp.compare_eq_iff_eq,
      @eq_comm _ place]
  nodup := List.nodup_cons.2 ⟨hnew, h.nodup⟩

/-! ### One answer -/

theorem run_answer_of_some {known : Bool} (h : r.memo[place]? = some known)
    (work : Unit → StateM Record Bool) :
    (recording.answer place work).run r = (known, r.called place) := by
  simp only [Memory.answer, recording, StateT.run_bind]
  simp [h]
  rfl

theorem run_answer_of_none (h : r.memo[place]? = none) (work : Unit → StateM Record Bool) :
    (recording.answer place work).run r =
      let found := (work ()).run (r.called place)
      (found.1, found.2.noted place found.1) := by
  simp [Memory.answer, recording, h]
  rfl

theorem reaches_pure (hr : r.Valid pattern name) {found : Bool} (hf : found = true ↔ holds) :
    Reaches pattern name j r holds ((pure found : StateM Record Bool).run r) :=
  ⟨hf, hr, fun _ h => .inl h⟩

/-- An answer is right if the work for it is, which asks for later places only. -/
theorem reaches_answer {work : Unit → StateM Record Bool} (hr : r.Valid pattern name)
    (hi : i ≤ name.length) (hj : j ≤ pattern.length)
    (hw : ∀ r, r.Valid pattern name →
      Reaches pattern name (j + 1) r (Means (pattern.drop j) (name.drop i)) ((work ()).run r)) :
    Reaches pattern name j r (Means (pattern.drop j) (name.drop i))
      ((recording.answer (i, j) work).run r) := by
  have hcalled := hr.called hi hj
  cases hk : r.memo[(i, j)]? with
  | some known =>
    rw [run_answer_of_some hk]
    exact ⟨(hr.sound i j known hk).2.2, hcalled, fun _ h => .inl h⟩
  | none =>
    have h := hw _ hcalled
    -- The work asks for later places only, so nothing has been noted for this one meanwhile.
    have hnew : (i, j) ∉ ((work ()).run (r.called (i, j))).2.evaluated := by
      intro hmem
      rcases h.behind _ hmem with hold | hlater
      · rw [Record.called, hr.mem_iff, Std.TreeMap.mem_iff_isSome_getElem?, hk] at hold
        cases hold
      · exact absurd hlater (Nat.not_succ_le_self j)
    rw [run_answer_of_none hk]
    refine ⟨h.answer, h.valid.noted hi hj hnew h.answer, ?_⟩
    intro place hplace
    rcases List.mem_cons.1 hplace with rfl | hplace
    · exact .inr (Nat.le_refl j)
    · exact (h.behind place hplace).imp_right Nat.le_of_succ_le

/-- Places are tried up to the first with a yes. -/
theorem reaches_anyM {ks : List Nat} {work : Nat → StateM Record Bool} {holds : Nat → Prop}
    (hw : ∀ k ∈ ks, ∀ r, r.Valid pattern name → Reaches pattern name j r (holds k) ((work k).run r))
    (hr : r.Valid pattern name) :
    Reaches pattern name j r (∃ k ∈ ks, holds k) ((ks.anyM work).run r) := by
  induction ks generalizing r with
  | nil => exact reaches_pure hr (by simp)
  | cons k ks ih =>
    have h := hw k List.mem_cons_self r hr
    rw [List.anyM_cons, StateT.run_bind]
    change Reaches pattern name j r _ (StateT.run (if ((work k).run r).1 = true then pure true
      else ks.anyM work) ((work k).run r).2)
    split
    · next hyes =>
      refine ⟨iff_of_true rfl ⟨k, List.mem_cons_self, h.answer.1 hyes⟩, h.valid, h.behind⟩
    · next hno =>
      have hrest := ih (fun k hk => hw k (List.mem_cons_of_mem _ hk)) h.valid
      refine ⟨?_, hrest.valid, fun place hplace => ?_⟩
      · rw [hrest.answer, List.exists_mem_cons_iff, or_iff_right fun hk => hno (h.answer.2 hk)]
      · rcases hrest.behind place hplace with hfirst | hlater
        · exact h.behind place hfirst
        · exact .inr hlater

/-! ### Whole runs -/

theorem drop_succ_of_drop {c : Char} (h : pattern.drop j = c :: rest) :
    j + 1 ≤ pattern.length ∧ pattern.drop (j + 1) = rest := by
  have hlen := congrArg List.length h
  have htail := congrArg List.tail h
  rw [List.length_drop, List.length_cons] at hlen
  rw [List.tail_drop, List.tail_cons] at htail
  exact ⟨by omega, htail⟩

/-- Going on behind one character that has to be next. -/
theorem reaches_exactly {c : Char} {items : List Pattern.Item} {next : StateM Record Bool}
    (hr : r.Valid pattern name)
    (hnext : i + 1 ≤ name.length → Reaches pattern name j r
      (Fits (· == ·) items (name.drop (i + 1))) (next.run r)) :
    Reaches pattern name j r (Fits (· == ·) (.exactly c :: items) (name.drop i))
      (StateT.run (if name[i]? = some c then next else pure false) r) := by
  rw [fits_exactly_drop_iff]
  split
  · next hc =>
    have h := hnext (List.getElem?_eq_some_iff.1 hc).1
    exact ⟨h.answer.trans (and_iff_right hc).symm, h.valid, h.behind⟩
  · next hc => exact reaches_pure hr (iff_of_false Bool.false_ne_true fun h => hc h.1)

/-- From every place matching finds out whether the rest of the pattern stands for the rest of the
name, and it keeps its record. -/
theorem reaches_matchFrom (hr : r.Valid pattern name) (hrest : pattern.drop j = rest)
    (hi : i ≤ name.length) (hj : j ≤ pattern.length) :
    Reaches pattern name j r (Means rest (name.drop i))
      ((matchFrom recording name rest i j).run r) := by
  fun_induction matchFrom recording name rest i j generalizing r with
  | case1 i j =>
    rw [← hrest]
    refine reaches_answer hr hi hj fun r hr => reaches_pure hr ?_
    rw [hrest, means_nil_iff hi, beq_iff_eq]
  | case2 rest i j ih =>
    obtain ⟨hj', hrest'⟩ := drop_succ_of_drop hrest
    rw [← hrest]
    refine reaches_answer hr hi hj fun r hr => ?_
    rw [hrest, means_anyRun_iff hi]
    refine reaches_anyM (fun k hk r hr => ?_) hr
    rw [List.mem_range'_1] at hk
    exact ih k hr hrest' (by omega) hj'
  | case3 rest i j ih =>
    obtain ⟨hj', hrest'⟩ := drop_succ_of_drop hrest
    rw [← hrest]
    refine reaches_answer hr hi hj fun r hr => ?_
    rw [hrest, means_anyOne_iff]
    split
    · next hlt =>
      have h := ih hr hrest' hlt hj'
      exact ⟨h.answer.trans (and_iff_right hlt).symm, h.valid, h.behind⟩
    · next hlt => exact reaches_pure hr (iff_of_false Bool.false_ne_true fun h => hlt h.1)
  | case4 i j ih =>
    obtain ⟨hj', hrest'⟩ := drop_succ_of_drop hrest
    rw [← hrest]
    refine reaches_answer hr hi hj fun r hr => ?_
    rw [hrest]
    exact reaches_exactly hr fun hi' => ih hr hrest' hi' hj'
  | case5 c rest i j ih =>
    obtain ⟨-, hescaped⟩ := drop_succ_of_drop hrest
    obtain ⟨hj', hrest'⟩ := drop_succ_of_drop hescaped
    rw [← hrest]
    refine reaches_answer hr hi hj fun r hr => ?_
    rw [hrest]
    refine reaches_exactly hr fun hi' => ?_
    have h := ih hr hrest' hi' hj'
    exact ⟨h.answer, h.valid, fun place hplace => (h.behind place hplace).imp_right Nat.le_of_succ_le⟩
  | case6 c rest i j hrun hone hlast hescape ih =>
    obtain ⟨hj', hrest'⟩ := drop_succ_of_drop hrest
    have hitems : ofText (.exactly '\x5c') (c :: rest) =
        .exactly c :: ofText (.exactly '\x5c') rest := by
      rw [ofText]
      · exact hlast
      · exact hescape
      · exact hrun
      · exact hone
    rw [← hrest]
    refine reaches_answer hr hi hj fun r hr => ?_
    rw [hrest, Means, hitems]
    exact reaches_exactly hr fun hi' => ih hr hrest' hi' hj'

/-! ### Without the record -/

/-- An answer and what is remembered with it, without the rest of the record. -/
def forget (found : Bool × Record) : Bool × Memo :=
  (found.1, found.2.memo)

theorem run_remembering_of_some {memo : Memo} {known : Bool} (h : memo[place]? = some known)
    (work : Unit → StateM Memo Bool) :
    (remembering.answer place work).run memo = (known, memo) := by
  simp [Memory.answer, remembering, h]
  rfl

theorem run_remembering_of_none {memo : Memo} (h : memo[place]? = none)
    (work : Unit → StateM Memo Bool) :
    (remembering.answer place work).run memo =
      let found := (work ()).run memo
      (found.1, found.2.insert place found.1) := by
  simp [Memory.answer, remembering, h]
  rfl

theorem forget_answer {work : Unit → StateM Record Bool} {work' : Unit → StateM Memo Bool}
    (hw : ∀ r, forget ((work ()).run r) = (work' ()).run r.memo) (r : Record) :
    forget ((recording.answer place work).run r) = (remembering.answer place work').run r.memo := by
  cases hk : r.memo[place]? with
  | some known =>
    rw [run_answer_of_some hk, run_remembering_of_some hk]
    rfl
  | none =>
    have hrun : (work' ()).run r.memo = forget ((work ()).run (r.called place)) :=
      (hw (r.called place)).symm
    rw [run_answer_of_none hk, run_remembering_of_none hk, hrun]
    rfl

theorem forget_anyM {work : Nat → StateM Record Bool} {work' : Nat → StateM Memo Bool}
    (hw : ∀ k r, forget ((work k).run r) = (work' k).run r.memo) (ks : List Nat) (r : Record) :
    forget ((ks.anyM work).run r) = (ks.anyM work').run r.memo := by
  induction ks generalizing r with
  | nil => rfl
  | cons k ks ih =>
    have hk := hw k r
    rw [List.anyM_cons, List.anyM_cons, StateT.run_bind, StateT.run_bind, ← hk]
    change forget (StateT.run (if ((work k).run r).1 = true then pure true else ks.anyM work)
      ((work k).run r).2) = StateT.run (if ((work k).run r).1 = true then pure true
        else ks.anyM work') ((work k).run r).2.memo
    split
    · rfl
    · exact ih _

/-- Keeping a record changes nothing in what is found and remembered. -/
theorem forget_matchFrom (name rest : Text) (i j : Nat) (r : Record) :
    forget ((matchFrom recording name rest i j).run r) =
      (matchFrom remembering name rest i j).run r.memo := by
  fun_induction matchFrom recording name rest i j generalizing r with
  | case1 i j => exact forget_answer (fun _ => rfl) r
  | case2 rest i j ih => exact forget_answer (forget_anyM ih _) r
  | case3 rest i j ih =>
    refine forget_answer (fun r => ?_) r
    split
    · exact ih r
    · rfl
  | case4 i j ih =>
    refine forget_answer (fun r => ?_) r
    split
    · exact ih r
    · rfl
  | case5 c rest i j ih =>
    refine forget_answer (fun r => ?_) r
    split
    · exact ih r
    · rfl
  | case6 c rest i j hrun hone hlast hescape ih =>
    rw [matchFrom]
    · refine forget_answer (fun r => ?_) r
      split
      · exact ih r
      · rfl
    · exact hrun
    · exact hone
    · exact hlast
    · exact hescape

end

theorem reaches_start (pattern name : Text) :
    Reaches pattern name 0 .start (Means pattern name)
      ((matchFrom recording name pattern 0 0).run .start) :=
  reaches_matchFrom valid_start rfl (Nat.zero_le _) (Nat.zero_le _)

/-- A name fits a pattern if and only if it can be cut into pieces for which the items of the
pattern stand. -/
theorem fits_iff_means (pattern name : Text) : fits pattern name = true ↔ Means pattern name := by
  have hforget := forget_matchFrom name pattern 0 0 .start
  rw [fits, ← (reaches_start pattern name).answer]
  exact iff_of_eq (congrArg (fun found => found.1 = true) hforget.symm)

/-- No place is worked out twice, so there are not more answers than places. -/
theorem length_evaluated_le {pattern name : Text} {r : Record} (h : r.Valid pattern name) :
    r.evaluated.length ≤ (name.length + 1) * (pattern.length + 1) := by
  have hsubset : r.evaluated ⊆
      List.range (name.length + 1) ×ˢ List.range (pattern.length + 1) := by
    rintro ⟨i, j⟩ hplace
    rw [h.mem_iff, Std.TreeMap.mem_iff_isSome_getElem?, Option.isSome_iff_exists] at hplace
    obtain ⟨known, hknown⟩ := hplace
    obtain ⟨hi, hj, -⟩ := h.sound i j known hknown
    refine List.pair_mem_product.2 ⟨List.mem_range.2 ?_, List.mem_range.2 ?_⟩
    · omega
    · omega
  have hle := (List.subperm_of_subset h.nodup hsubset).length_le
  rwa [List.length_product, List.length_range, List.length_range] at hle

/-- Matching with a memory comes to what the pattern stands for. At every call what is remembered is
for places of the name and the pattern and is right there, and no place is worked out twice. -/
theorem matching_remembers (pattern name : Text) :
    (fits pattern name = true ↔
      Fits (· == ·) (ofText (.exactly '\x5c') pattern) name) ∧
    ∃ r : Record, (matchFrom recording name pattern 0 0).run .start = (fits pattern name, r) ∧
      r.memo = ((matchFrom remembering name pattern 0 0).run ∅).2 ∧
      (∀ place, place ∈ r.evaluated ↔ place ∈ r.memo) ∧
      (∀ call ∈ r.calls, call.1.1 ≤ name.length ∧ call.1.2 ≤ pattern.length ∧
        ∀ (i j : Nat) (known : Bool), call.2[(i, j)]? = some known →
          i ≤ name.length ∧ j ≤ pattern.length ∧ (known = true ↔
            Fits (· == ·) (ofText (.exactly '\x5c') (pattern.drop j)) (name.drop i))) ∧
      r.evaluated.Nodup ∧ r.evaluated.length ≤ (name.length + 1) * (pattern.length + 1) := by
  have hforget := forget_matchFrom name pattern 0 0 .start
  have hvalid := (reaches_start pattern name).valid
  have hanswer : ((matchFrom recording name pattern 0 0).run .start).1 = fits pattern name :=
    congrArg Prod.fst hforget
  exact ⟨fits_iff_means pattern name, _, Prod.ext hanswer rfl, congrArg Prod.snd hforget,
    hvalid.mem_iff, hvalid.calls, hvalid.nodup, length_evaluated_le hvalid⟩

end GeneratedKeys.Catalog
