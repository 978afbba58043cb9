import GeneratedKeys.Text.Basic

/-!
# Columns

A column has a name and a position in its table. Positions are whole numbers; nothing is promised
of them, so a table may have gaps, repeated positions or columns out of order.
-/
namespace GeneratedKeys

structure Column where
  name : Text
  position : Int
deriving DecidableEq, Repr

namespace Column

/-- Gives names the positions from `n` on, in their order. -/
def numberedFrom (n : Int) : List Text → List Column
  | [] => []
  | name :: names => ⟨name, n⟩ :: numberedFrom (n + 1) names

/-- Gives names the positions 1, 2, 3 and so on. -/
def numbered (names : List Text) : List Column :=
  numberedFrom 1 names

@[simp] theorem numberedFrom_nil (n : Int) : numberedFrom n [] = [] := rfl

@[simp] theorem numberedFrom_cons (n : Int) (name : Text) (names : List Text) :
    numberedFrom n (name :: names) = ⟨name, n⟩ :: numberedFrom (n + 1) names := rfl

@[simp] theorem map_name_numberedFrom (n : Int) (names : List Text) :
    (numberedFrom n names).map Column.name = names := by
  induction names generalizing n with
  | nil => rfl
  | cons name names ih => simp [ih]

end Column

end GeneratedKeys
