import GeneratedKeys.Column.Basic

/-!
# Tables

A table has a name and columns in an order of its own.
-/
namespace GeneratedKeys

structure Table where
  name : Text
  columns : List Column
deriving DecidableEq, Repr

namespace Table

/-- A table whose columns are numbered in their order. -/
def ofNames (name : Text) (columns : List Text) : Table :=
  ⟨name, Column.numbered columns⟩

end Table
end GeneratedKeys
