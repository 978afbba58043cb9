import GeneratedKeys.Catalog.Matcher
import GeneratedKeys.Table

/-!
# Catalogs

A catalog holds tables in the order in which they were added. Names may repeat.
-/
namespace GeneratedKeys

structure Catalog where
  tables : List Table
deriving DecidableEq, Repr

namespace Catalog

def empty : Catalog :=
  ⟨[]⟩

def add (c : Catalog) (t : Table) : Catalog :=
  ⟨c.tables ++ [t]⟩

/-- The columns of all tables whose names fit a pattern. -/
def lookup (c : Catalog) (pattern : Text) : List Column :=
  (c.tables.filter fun t => fits pattern t.name).flatMap Table.columns

end Catalog
end GeneratedKeys
