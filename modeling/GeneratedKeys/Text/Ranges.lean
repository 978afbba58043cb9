import GeneratedKeys.Text.Basic

/-!
# Ranges of code points

Character properties are given as closed intervals of code points, in increasing order.
-/
namespace GeneratedKeys.Text

/-- Closed intervals of code points. -/
abbrev Ranges := List (Nat × Nat)

/-- Whether some interval holds a code point. -/
def Ranges.holds (rs : Ranges) (n : Nat) : Bool :=
  rs.any fun r => r.1 ≤ n && n ≤ r.2

theorem Ranges.holds_iff {rs : Ranges} {n : Nat} :
    rs.holds n = true ↔ ∃ r ∈ rs, r.1 ≤ n ∧ n ≤ r.2 := by
  simp [Ranges.holds]

end GeneratedKeys.Text
