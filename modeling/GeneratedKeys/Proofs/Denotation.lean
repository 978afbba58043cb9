import GeneratedKeys.Catalog.Basic
import GeneratedKeys.Proofs.Remembering
import GeneratedKeys.TableName

/-!
# The table that a name denotes

A name is escaped, stripped of its quotes or brought into upper case, and matched as a pattern. All
of this comes to looking for one name: the pattern of a name matches what the name denotes and
nothing else, whatever characters with a meaning of their own are in it.
-/
namespace GeneratedKeys

namespace TableName
open Text

/-- The name of the table that a written name denotes: what stands between the quotes if there is
something, or else the name in upper case. Blanks around a name do not count. -/
def denoted (name : Text) : Text :=
  let t := trim name
  if 3 ≤ t.size ∧ t.head? = some '\x22' ∧ t.getLast? = some '\x22' then interior t else upper t

/-! ### Upper case -/

theorem eq_of_isWildcard {c : Char} (h : isWildcard c = true) :
    c = '\x5c' ∨ c = '_' ∨ c = '%' := by
  simpa [isWildcard, or_assoc] using h

theorem toNat_of_isWildcard {c : Char} (h : isWildcard c = true) :
    c.toNat = 0x5c ∨ c.toNat = 0x5f ∨ c.toNat = 0x25 := by
  rcases eq_of_isWildcard h with rfl | rfl | rfl <;> decide

/-- A code point makes a character with a meaning of its own only if it is the code point of one. -/
theorem of_isWildcard_ofNat {n : Nat} (h : isWildcard (Char.ofNat n) = true) :
    n = 0x5c ∨ n = 0x5f ∨ n = 0x25 := by
  by_cases hn : n.isValidChar
  · have htoNat : (Char.ofNat n).toNat = n := by
      rw [Char.ofNat, dif_pos hn]
      exact UInt32.toNat_ofNatLT
    rw [← htoNat]
    exact toNat_of_isWildcard h
  · rw [Char.ofNat, dif_neg hn] at h
    exact absurd h (by decide)

theorem isWildcard_toUpper {c : Char} (hc : c.toNat < 0x80) :
    isWildcard c.toUpper = isWildcard c := by
  have hall : ∀ n : Fin 0x80,
      isWildcard (Char.ofNat n).toUpper = isWildcard (Char.ofNat n) := by decide
  have h := hall ⟨c.toNat, hc⟩
  rwa [Char.ofNat_toNat] at h

theorem not_isWildcard_expansion {p : Nat × List Nat} (hp : p ∈ upperExpansions) {n : Nat}
    (hn : n ∈ p.2) : isWildcard (Char.ofNat n) = false := by
  have hall : ∀ p ∈ upperExpansions, ∀ n ∈ p.2, isWildcard (Char.ofNat n) = false := by
    decide +kernel
  exact hall p hp n hn

theorem not_isWildcard_move {r : Run} (hr : r ∈ upperRuns) {n : Nat} (hn : r.covers n = true) :
    isWildcard (Char.ofNat (r.move n)) = false := by
  have hall : ∀ r ∈ upperRuns, 0x60 ≤ r.first + r.shift ∨
      (0x26 ≤ r.first + r.shift ∧ r.last + r.shift < 0x5c) := by
    decide +kernel
  have hb := hall r hr
  simp only [Run.covers, Bool.and_eq_true, decide_eq_true_eq] at hn
  obtain ⟨⟨hfirst, hlast⟩, -⟩ := hn
  apply Bool.eq_false_iff.2
  intro hw
  have := of_isWildcard_ofNat hw
  unfold Run.move at this
  omega

theorem isWildcard_of_le {c : Char} (hc : ¬ c.toNat < 0x80) : isWildcard c = false := by
  apply Bool.eq_false_iff.2
  intro hw
  have := toNat_of_isWildcard hw
  omega

/-- Where the characters of an upper-case form come from. -/
theorem mem_upperChar {c d : Char} (hc : ¬ c.toNat < 0x80) (hd : d ∈ upperChar c) :
    (∃ p ∈ upperExpansions, ∃ n ∈ p.2, Char.ofNat n = d) ∨
      (∃ r ∈ upperRuns, r.covers c.toNat = true ∧ Char.ofNat (r.move c.toNat) = d) ∨ d = c := by
  rw [upperChar, if_neg hc] at hd
  split at hd
  · rename_i form hform
    obtain ⟨xs, ys, hxs, -⟩ := List.lookup_eq_some_iff.1 hform
    have hmem : (c.toNat, form) ∈ upperExpansions := by simp [hxs]
    obtain ⟨n, hn, hnd⟩ := List.mem_map.1 hd
    exact .inl ⟨_, hmem, n, hn, hnd⟩
  · split at hd
    · rename_i run hrun
      have hcovers : run.covers c.toNat = true := by
        simpa using List.find?_some hrun
      have hmove := (List.mem_singleton.1 hd).symm
      exact .inr (.inl ⟨run, List.mem_of_find?_eq_some hrun, hcovers, hmove⟩)
    · exact .inr (.inr (List.mem_singleton.1 hd))

/-- Upper case keeps the characters with a meaning of their own, and makes none of them from any
other character. -/
theorem upperChar_cases (c : Char) :
    (isWildcard c = true ∧ upperChar c = [c]) ∨
      (isWildcard c = false ∧ ∀ d ∈ upperChar c, isWildcard d = false) := by
  by_cases hc : c.toNat < 0x80
  · have hu : upperChar c = [c.toUpper] := by rw [upperChar, if_pos hc]
    cases hw : isWildcard c with
    | true =>
      left
      refine ⟨rfl, ?_⟩
      rcases eq_of_isWildcard hw with rfl | rfl | rfl <;> rfl
    | false =>
      right
      refine ⟨rfl, ?_⟩
      rw [hu]
      simpa [isWildcard_toUpper hc] using hw
  · right
    refine ⟨isWildcard_of_le hc, fun d hd => ?_⟩
    rcases mem_upperChar hc hd with ⟨p, hp, n, hn, rfl⟩ | ⟨r, hr, hcovers, rfl⟩ | rfl
    · exact not_isWildcard_expansion hp hn
    · exact not_isWildcard_move hr hcovers
    · exact isWildcard_of_le hc

/-! ### Escaping -/

@[simp] theorem escapeWildcards_append (s t : Text) :
    escapeWildcards (s ++ t) = escapeWildcards s ++ escapeWildcards t := by
  induction s with
  | nil => rfl
  | cons c s ih => by_cases hc : isWildcard c = true <;> simp [escapeWildcards, hc, ih]

theorem escapeWildcards_of_not_isWildcard {t : Text} (h : ∀ c ∈ t, isWildcard c = false) :
    escapeWildcards t = t := by
  induction t with
  | nil => rfl
  | cons c t ih =>
    have hc : isWildcard c = false := h c List.mem_cons_self
    have ht := ih fun d hd => h d (List.mem_cons_of_mem c hd)
    simp [escapeWildcards, hc, ht]

theorem upper_cons (c : Char) (t : Text) : upper (c :: t) = upperChar c ++ upper t :=
  List.flatMap_cons

/-- It makes no difference whether a name is escaped before it is brought into upper case. -/
theorem upper_escapeWildcards (t : Text) :
    upper (escapeWildcards t) = escapeWildcards (upper t) := by
  induction t with
  | nil => rfl
  | cons c t ih =>
    rw [upper_cons, escapeWildcards_append, ← ih, escapeWildcards]
    rcases upperChar_cases c with ⟨hc, hu⟩ | ⟨hc, hu⟩
    · have hb : upperChar '\x5c' = ['\x5c'] := rfl
      rw [if_pos hc, upper_cons, upper_cons, hb, hu]
      simp [escapeWildcards, hc]
    · rw [if_neg (by simp [hc]), upper_cons, escapeWildcards_of_not_isWildcard hu]

theorem size_escapeWildcards_pos (t : Text) :
    0 < (escapeWildcards t).size ↔ 0 < t.size := by
  cases t with
  | nil => rfl
  | cons c t =>
    have hpos := c.utf8Size_pos
    unfold escapeWildcards
    split
    · simp only [size_cons]
      omega
    · simp only [size_cons]
      omega

theorem head?_escapeWildcards (t : Text) :
    (escapeWildcards t).head? = some '\x22' ↔ t.head? = some '\x22' := by
  cases t with
  | nil => rfl
  | cons c t =>
    unfold escapeWildcards
    split
    · rename_i hc
      rcases eq_of_isWildcard hc with rfl | rfl | rfl <;> simp
    · rfl

theorem getLast?_escapeWildcards (t : Text) : (escapeWildcards t).getLast? = t.getLast? := by
  rcases List.eq_nil_or_concat t with rfl | ⟨u, d, rfl⟩
  · rfl
  · have hd : (escapeWildcards [d]).getLast? = some d := by
      by_cases hd : isWildcard d = true <;> simp [escapeWildcards, hd]
    rw [List.concat_eq_append, escapeWildcards_append, List.getLast?_append, hd,
      List.getLast?_concat]
    rfl

/-- A text that starts and ends with a double quote is one quote, or has two around it. -/
theorem eq_of_quotes {t : Text} (hfirst : t.head? = some '\x22')
    (hlast : t.getLast? = some '\x22') :
    t = ['\x22'] ∨ ∃ u, t = '\x22' :: (u ++ ['\x22']) := by
  obtain ⟨v, rfl⟩ : ∃ v, t = '\x22' :: v := by
    cases t with
    | nil => cases hfirst
    | cons c v => exact ⟨v, by rw [Option.some.inj hfirst]⟩
  rcases List.eq_nil_or_concat v with rfl | ⟨u, d, rfl⟩
  · exact .inl rfl
  · right
    rw [List.concat_eq_append, ← List.cons_append, List.getLast?_concat] at hlast
    obtain rfl : d = '\x22' := Option.some.inj hlast
    exact ⟨u, by rw [List.concat_eq_append]⟩

theorem interior_quotes (u : Text) : interior ('\x22' :: (u ++ ['\x22'])) = u := by
  rw [interior, List.tail_cons, List.dropLast_concat]

theorem escapeWildcards_quotes (u : Text) :
    escapeWildcards ('\x22' :: (u ++ ['\x22'])) = '\x22' :: (escapeWildcards u ++ ['\x22']) := by
  have hq : ∀ v, escapeWildcards ('\x22' :: v) = '\x22' :: escapeWildcards v := by
    intro v
    rw [escapeWildcards, if_neg (by decide)]
  rw [hq, escapeWildcards_append, hq]
  rfl

/-- Escaping makes no quotes and leaves no room between them where there was none. -/
theorem isQuoted_escapeWildcards (t : Text) :
    isQuoted (escapeWildcards t) = true ↔
      3 ≤ t.size ∧ t.head? = some '\x22' ∧ t.getLast? = some '\x22' := by
  unfold isQuoted
  simp only [Bool.and_eq_true, decide_eq_true_eq, beq_iff_eq, head?_escapeWildcards,
    getLast?_escapeWildcards, and_assoc]
  refine and_congr_left ?_
  rintro ⟨hfirst, hlast⟩
  rcases eq_of_quotes hfirst hlast with rfl | ⟨u, rfl⟩
  · decide
  · have hpos := size_escapeWildcards_pos u
    have hquote : ('\x22' : Char).utf8Size = 1 := by decide
    rw [escapeWildcards_quotes]
    simp only [size_cons, size_append, size_nil, hquote]
    omega

/-- The pattern for a name stands for the name it denotes. -/
theorem pattern_eq (name : Text) : pattern name = escapeWildcards (denoted name) := by
  unfold pattern denoted
  by_cases hq : isQuoted (escapeWildcards (trim name)) = true
  · have hquotes := (isQuoted_escapeWildcards (trim name)).1 hq
    simp only [hq, if_true, if_pos hquotes]
    obtain ⟨hsize, hfirst, hlast⟩ := hquotes
    rcases eq_of_quotes hfirst hlast with ht | ⟨u, ht⟩
    · rw [ht] at hsize
      exact absurd hsize (by decide)
    · rw [ht, escapeWildcards_quotes, interior_quotes, interior_quotes]
  · have hquotes := mt (isQuoted_escapeWildcards (trim name)).2 hq
    simp only [hq, if_neg hquotes]
    exact upper_escapeWildcards (trim name)

end TableName

namespace Pattern
open TableName

theorem ofText_escapeWildcards (atEnd : Item) (t : Text) :
    ofText atEnd (escapeWildcards t) = t.map .exactly := by
  induction t with
  | nil => rfl
  | cons c t ih =>
    rw [escapeWildcards, List.map_cons, ← ih]
    split
    · rw [ofText]
    · rename_i hc
      -- What is not escaped is taken by the last case, for it is none of the characters before.
      rw [ofText]
      all_goals
        intros
        subst_vars
        exact hc rfl

end Pattern

namespace Catalog
open TableName

theorem fits_escapeWildcards (t name : Text) : fits (escapeWildcards t) name = true ↔ name = t := by
  rw [fits_iff_means, Means, Pattern.ofText_escapeWildcards, Pattern.fits_map_exactly]
  simp only [beq_iff_eq, List.forall₂_eq_eq_eq, @eq_comm _ name]

/-- Looking a written name up finds the columns of the tables that have the denoted name, in the
order of the tables, and of no other table. -/
theorem lookup_pattern (c : Catalog) (name : Text) :
    c.lookup (pattern name) =
      (c.tables.filter fun t => t.name = denoted name).flatMap Table.columns := by
  rw [lookup, pattern_eq]
  congr 1
  apply List.filter_congr
  intro t _
  rw [Bool.eq_iff_iff, fits_escapeWildcards, decide_eq_true_eq]

end Catalog
end GeneratedKeys
