import GeneratedKeys.Text.Basic

/-!
# The clause that returns columns

The clause goes on a line of its own behind the statement, whose final semicolon it replaces.
-/
namespace GeneratedKeys.Query

/-- A text without a semicolon at its very end. -/
def dropSemicolon (sql : Text) : Text :=
  if sql.getLast? = some ';' then sql.dropLast else sql

/-- The clause that returns columns, on a new line. -/
def clause (columns : List Text) : Text :=
  "\nRETURNING ".toList ++ List.intercalate [','] columns

def addReturning (sql : Text) (columns : List Text) : Text :=
  dropSemicolon sql ++ clause columns

/-- A column's name between double quotes, which keep its case. -/
def quoteName (name : Text) : Text :=
  '\x22' :: (name ++ ['\x22'])

end GeneratedKeys.Query
