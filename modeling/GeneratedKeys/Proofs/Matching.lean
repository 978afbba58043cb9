import GeneratedKeys.Pattern
import Mathlib.Data.List.Forall2

/-!
# What patterns match

A pattern matches a text that can be cut into pieces, one for each of its items. The matcher finds
out whether there is such a cut, place by place; what it remembers on the way is sound, which is to
say that an answer remembered for a place is the answer there.
-/
namespace GeneratedKeys.Pattern

/-- The pieces that an item stands for. -/
def Item.Stands (same : Char → Char → Bool) : Item → Text → Prop
  | .anyRun, _ => True
  | .anyOne, piece => ∃ d, piece = [d]
  | .exactly c, piece => ∃ d, piece = [d] ∧ same c d = true
  | .never, _ => False

/-- A text that can be cut into pieces for which the items stand, one after the other. -/
def Fits (same : Char → Char → Bool) (items : List Item) (t : Text) : Prop :=
  ∃ pieces, List.Forall₂ (Item.Stands same) items pieces ∧ pieces.flatten = t

section
variable {same : Char → Char → Bool} {items rest : List Item} {t name : Text} {c d : Char}

@[simp] theorem fits_nil : Fits same [] t ↔ t = [] := by
  constructor
  · rintro ⟨pieces, h, rfl⟩
    rw [List.forall₂_nil_left_iff.1 h]
    rfl
  · rintro rfl
    exact ⟨[], .nil, rfl⟩

theorem fits_cons {item : Item} :
    Fits same (item :: items) t ↔
      ∃ piece remainder, t = piece ++ remainder ∧ item.Stands same piece ∧
        Fits same items remainder := by
  constructor
  · rintro ⟨pieces, h, rfl⟩
    obtain ⟨piece, others, hp, ho, rfl⟩ := List.forall₂_cons_left_iff.1 h
    exact ⟨piece, others.flatten, rfl, hp, others, ho, rfl⟩
  · rintro ⟨piece, remainder, rfl, hp, others, ho, rfl⟩
    exact ⟨piece :: others, .cons hp ho, rfl⟩

theorem fits_anyRun : Fits same (.anyRun :: items) t ↔ ∃ s, s <:+ t ∧ Fits same items s := by
  rw [fits_cons]
  constructor
  · rintro ⟨piece, s, rfl, -, h⟩
    exact ⟨s, List.suffix_append piece s, h⟩
  · rintro ⟨s, ⟨piece, rfl⟩, h⟩
    exact ⟨piece, s, rfl, trivial, h⟩

@[simp] theorem not_fits_anyOne_nil : ¬ Fits same (.anyOne :: items) [] := by
  rw [fits_cons]
  rintro ⟨piece, s, h, ⟨d, rfl⟩, -⟩
  cases h

@[simp] theorem fits_anyOne_cons : Fits same (.anyOne :: items) (d :: t) ↔ Fits same items t := by
  rw [fits_cons]
  constructor
  · rintro ⟨piece, s, h, ⟨e, rfl⟩, hs⟩
    obtain ⟨rfl, rfl⟩ := List.cons.inj h
    exact hs
  · intro h
    exact ⟨[d], t, rfl, ⟨d, rfl⟩, h⟩

@[simp] theorem not_fits_exactly_nil : ¬ Fits same (.exactly c :: items) [] := by
  rw [fits_cons]
  rintro ⟨piece, s, h, ⟨d, rfl, -⟩, -⟩
  cases h

@[simp] theorem fits_exactly_cons :
    Fits same (.exactly c :: items) (d :: t) ↔ same c d = true ∧ Fits same items t := by
  rw [fits_cons]
  constructor
  · rintro ⟨piece, s, h, ⟨e, rfl, he⟩, hs⟩
    obtain ⟨rfl, rfl⟩ := List.cons.inj h
    exact ⟨he, hs⟩
  · rintro ⟨he, h⟩
    exact ⟨[d], t, rfl, ⟨d, rfl, he⟩, h⟩

@[simp] theorem not_fits_never : ¬ Fits same (.never :: items) t := by
  rw [fits_cons]
  rintro ⟨piece, s, -, h, -⟩
  exact h

/-- Items for one character each fit the texts that are the same character for character. -/
theorem fits_map_exactly :
    Fits same (t.map .exactly) name ↔ List.Forall₂ (fun c d => same c d = true) t name := by
  induction t generalizing name with
  | nil => rw [List.map_nil, fits_nil, List.forall₂_nil_left_iff]
  | cons c t ih =>
    cases name with
    | nil => exact iff_of_false not_fits_exactly_nil fun h => by cases h
    | cons d name => rw [List.map_cons, fits_exactly_cons, ih, List.forall₂_cons]

/-! ### What is remembered -/

/-- What has been remembered while a name is matched: the place of every answer is one of the name
and the pattern, and the answer is the right one there. -/
def Memo.Sound (same : Char → Char → Bool) (items : List Item) (name : Text) (memo : Memo) : Prop :=
  ∀ (left right : Nat) (known : Bool), memo[(left, right)]? = some known →
    left ≤ name.length ∧ right ≤ items.length ∧
      (known = true ↔
        Fits same (items.drop (items.length - right)) (name.drop (name.length - left)))

/-- An answer for a place, and what is remembered with it. -/
structure Right (same : Char → Char → Bool) (items : List Item) (name : Text) (rest : List Item)
    (t : Text) (found : Bool × Memo) : Prop where
  answer : found.1 = true ↔ Fits same rest t
  sound : found.2.Sound same items name

theorem sound_empty : Memo.Sound same items name ∅ := by
  intro left right known h
  simp at h

theorem Memo.Sound.insert {memo : Memo} (h : memo.Sound same items name) (hi : rest <:+ items)
    (ht : t <:+ name) {known : Bool} (hk : known = true ↔ Fits same rest t) :
    Memo.Sound same items name (memo.insert (t.length, rest.length) known) := by
  intro left right found hf
  rw [Std.TreeMap.getElem?_insert] at hf
  split at hf
  · rename_i hp
    obtain ⟨rfl, rfl⟩ : t.length = left ∧ rest.length = right := by
      simpa using Std.LawfulEqCmp.eq_of_compare hp
    obtain rfl : known = found := Option.some.inj hf
    refine ⟨ht.length_le, hi.length_le, ?_⟩
    rw [← List.suffix_iff_eq_drop.1 hi, ← List.suffix_iff_eq_drop.1 ht]
    exact hk
  · exact h left right found hf

theorem right_remembered {memo : Memo} {work : Memo → Bool × Memo} (hi : rest <:+ items)
    (ht : t <:+ name) (hm : memo.Sound same items name)
    (hw : memo.Sound same items name → Right same items name rest t (work memo)) :
    Right same items name rest t (remembered (t.length, rest.length) work memo) := by
  unfold remembered
  split
  · rename_i known hk
    refine ⟨?_, hm⟩
    have h := (hm _ _ _ hk).2.2
    rwa [← List.suffix_iff_eq_drop.1 hi, ← List.suffix_iff_eq_drop.1 ht] at h
  · have h := hw hm
    exact ⟨h.answer, h.sound.insert hi ht h.answer⟩

theorem right_anySuffix {accepts : Text → Memo → Bool × Memo} (hi : .anyRun :: rest <:+ items)
    (ha : ∀ s memo, s <:+ name → memo.Sound same items name →
      Right same items name rest s (accepts s memo))
    {memo : Memo} (ht : t <:+ name) (hm : memo.Sound same items name) :
    Right same items name (.anyRun :: rest) t (anySuffix accepts (rest.length + 1) t memo) := by
  induction t generalizing memo with
  | nil =>
    refine right_remembered hi ht hm fun hm => ?_
    have h := ha [] memo ht hm
    refine ⟨?_, h.sound⟩
    rw [h.answer, fits_anyRun]
    simp
  | cons c t ih =>
    refine right_remembered hi ht hm fun hm => ?_
    have h := ha (c :: t) memo ht hm
    have htail : t <:+ name := (List.suffix_cons c t).trans ht
    dsimp only
    split
    · rename_i hyes
      refine ⟨?_, h.sound⟩
      rw [fits_anyRun]
      exact iff_of_true hyes ⟨c :: t, List.suffix_refl _, h.answer.1 hyes⟩
    · rename_i hno
      have hrest := ih htail h.sound
      refine ⟨?_, hrest.sound⟩
      rw [hrest.answer, fits_anyRun, fits_anyRun]
      constructor
      · rintro ⟨s, hs, hf⟩
        exact ⟨s, hs.trans (List.suffix_cons c t), hf⟩
      · rintro ⟨s, hs, hf⟩
        rcases List.suffix_cons_iff.1 hs with rfl | hs
        · exact absurd (h.answer.2 hf) hno
        · exact ⟨s, hs, hf⟩

/-- Matching answers right at every place, and so does what it remembers. -/
theorem right_run {memo : Memo} (hi : rest <:+ items) (ht : t <:+ name)
    (hm : memo.Sound same items name) :
    Right same items name rest t (run same rest t memo) := by
  induction rest generalizing t memo with
  | nil =>
    refine right_remembered hi ht hm fun hm => ⟨?_, hm⟩
    simp
  | cons item rest ih =>
    have hrest : rest <:+ items := (List.suffix_cons item rest).trans hi
    cases item with
    | anyRun => exact right_anySuffix hi (fun s memo hs hm => ih hrest hs hm) ht hm
    | never =>
      refine right_remembered hi ht hm fun hm => ⟨?_, hm⟩
      simp
    | anyOne =>
      refine right_remembered hi ht hm fun hm => ?_
      cases t with
      | nil => exact ⟨by simp, hm⟩
      | cons d t =>
        have h := ih hrest ((List.suffix_cons d t).trans ht) hm
        exact ⟨by rw [fits_anyOne_cons]; exact h.answer, h.sound⟩
    | exactly c =>
      refine right_remembered hi ht hm fun hm => ?_
      cases t with
      | nil => exact ⟨by simp, hm⟩
      | cons d t =>
        have h := ih hrest ((List.suffix_cons d t).trans ht) hm
        by_cases hc : same c d = true
        · dsimp only
          rw [if_pos hc]
          refine ⟨?_, h.sound⟩
          rw [h.answer, fits_exactly_cons, and_iff_right hc]
        · dsimp only
          rw [if_neg hc]
          refine ⟨?_, hm⟩
          simp [hc]

/-- A name is accepted if and only if it can be cut into pieces for which the items stand. -/
theorem accepts_iff_fits : accepts same items name = true ↔ Fits same items name :=
  (right_run (List.suffix_refl items) (List.suffix_refl name) sound_empty).answer

end

end GeneratedKeys.Pattern
