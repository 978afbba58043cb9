/-!
# Wanted positions

The positions that a caller wants come in any order and may be repeated. They are sorted once, and
each column's position is then looked for by halving.
-/
namespace GeneratedKeys.Query

/-- Positions in ascending order, in which a position may be repeated. -/
structure Positions where
  sorted : List Int
  ascending : sorted.Pairwise (· ≤ ·)

namespace Positions

def ofList (wanted : List Int) : Positions where
  sorted := wanted.mergeSort
  ascending := by
    have htrans (a b c : Int) (hab : decide (a ≤ b) = true) (hbc : decide (b ≤ c) = true) :
        decide (a ≤ c) = true :=
      decide_eq_true (Int.le_trans (of_decide_eq_true hab) (of_decide_eq_true hbc))
    have htotal (a b : Int) : (decide (a ≤ b) || decide (b ≤ a)) = true := by
      simpa using Int.le_total a b
    exact (List.pairwise_mergeSort htrans htotal wanted).imp of_decide_eq_true

section
variable {n middle : Int} {sorted above : List Int}

theorem length_lt_of_drop (h : sorted.drop (sorted.length / 2) = middle :: above) :
    sorted.length / 2 < sorted.length ∧ above.length < sorted.length := by
  have hlength := congrArg List.length h
  simp only [List.length_drop, List.length_cons] at hlength
  omega

/-- Looks in the middle of an ascending list, and then in the half where the position can be. -/
def search (n : Int) (sorted : List Int) : Bool :=
  match _h : sorted.drop (sorted.length / 2) with
  | [] => false
  | middle :: above =>
    if n = middle then true
    else if n < middle then search n (sorted.take (sorted.length / 2))
    else search n above
termination_by sorted.length
decreasing_by
  · have := length_lt_of_drop _h
    rw [List.length_take]
    omega
  · exact (length_lt_of_drop _h).2

def contains (p : Positions) (n : Int) : Bool :=
  search n p.sorted

theorem mem_halves (h : sorted.drop (sorted.length / 2) = middle :: above) :
    n ∈ sorted ↔ n ∈ sorted.take (sorted.length / 2) ∨ n ∈ middle :: above := by
  rw [← h, ← List.mem_append, List.take_append_drop]

/-- The lower half of an ascending list is ascending, and so is what follows the middle. -/
theorem pairwise_halves (h : sorted.drop (sorted.length / 2) = middle :: above)
    (hs : sorted.Pairwise (· ≤ ·)) :
    (sorted.take (sorted.length / 2)).Pairwise (· ≤ ·) ∧ above.Pairwise (· ≤ ·) ∧
      (∀ m ∈ sorted.take (sorted.length / 2), m ≤ middle) ∧ ∀ m ∈ above, middle ≤ m := by
  rw [← List.take_append_drop (sorted.length / 2) sorted, h, List.pairwise_append,
    List.pairwise_cons] at hs
  obtain ⟨htake, ⟨habove, hupper⟩, hlower⟩ := hs
  exact ⟨htake, hupper, fun m hm => hlower m hm middle List.mem_cons_self, habove⟩

/-- In an ascending list halving misses nothing. -/
theorem search_eq_true_iff (hs : sorted.Pairwise (· ≤ ·)) : search n sorted = true ↔ n ∈ sorted := by
  fun_induction search n sorted with
  | case1 sorted h =>
    have hnil : sorted = [] := by
      have hle := List.drop_eq_nil_iff.1 h
      exact List.eq_nil_of_length_eq_zero (by omega)
    simp [hnil]
  | case2 sorted above h =>
    exact iff_of_true rfl ((mem_halves h).2 (.inr List.mem_cons_self))
  | case3 sorted middle above h hne hlt ih =>
    obtain ⟨hlower, -, -, habove⟩ := pairwise_halves h hs
    have hnot : n ∉ middle :: above := by
      intro hm
      rcases List.mem_cons.1 hm with rfl | hm
      · exact hne rfl
      · have := habove n hm
        omega
    rw [ih hlower, mem_halves h, or_iff_left hnot]
  | case4 sorted middle above h hne hlt ih =>
    obtain ⟨-, hupper, hbelow, -⟩ := pairwise_halves h hs
    have hnot : n ∉ sorted.take (sorted.length / 2) := by
      intro hm
      have := hbelow n hm
      omega
    rw [ih hupper, mem_halves h, or_iff_right hnot, List.mem_cons, or_iff_right hne]

end

/-- A position is found if and only if it is wanted. -/
theorem contains_ofList (wanted : List Int) : (ofList wanted).contains = wanted.contains := by
  funext n
  rw [Bool.eq_iff_iff, List.contains_iff_mem]
  calc (ofList wanted).contains n = true
    _ ↔ n ∈ (ofList wanted).sorted := search_eq_true_iff (ofList wanted).ascending
    _ ↔ n ∈ wanted := List.mem_mergeSort

end Positions
end GeneratedKeys.Query
