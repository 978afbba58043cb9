import GeneratedKeys.Proofs.Quoting
import GeneratedKeys.Proofs.Selecting

/-!
# Quoted targets

In a quoted identifier a doubled quote stands for one, but the table of a statement is looked up by
what is written between its quotes. The two are the same name unless there is a quote in it; then
the columns of a table are added that the statement does not name, or none.
-/
namespace GeneratedKeys

namespace Text.Quoted

theorem double_eq_self_iff {mark : Char} {content : Text} :
    double mark content = content ↔ mark ∉ content := by
  refine ⟨fun h hm => ?_, Token.double_of_not_mem⟩
  have hlt := size_lt_double hm
  rw [h] at hlt
  exact Nat.lt_irrefl _ hlt

end Text.Quoted

namespace Token
open Text

/-- A quoted identifier is spelled in one way. -/
theorem Spells.eq_write {content t : Text} (h : Spells (.quotedIdentifier content) t) :
    content ≠ [] ∧ t = Quoted.write '\x22' content := by
  cases h with
  | quotedIdentifier hne => exact ⟨hne, rfl⟩
  | delimiter hd =>
    have hall : ∀ p ∈ delimiters, p.1.isIdentifier = false := by decide
    cases hall _ hd

end Token

namespace Statement
open Text Token TableName

/-- A table that is written as a quoted identifier denotes the name of the identifier with its
quotes still doubled. -/
theorem denoted_of_quotedIdentifier {sql name : Text} {s : Statement} {t : Token}
    (ht : t ∈ lexemes sql) (hkind : t.kind = .quotedIdentifier name) (htable : t.raw = s.table) :
    denoted s.table = Quoted.double '\x22' name := by
  have hmalformed : ∀ m, t.kind ≠ .malformed m := by
    intro m hm
    rw [hkind] at hm
    cases hm
  have hspells := spells_of_mem_lexemes ht hmalformed
  rw [hkind, htable] at hspells
  obtain ⟨hne, hwrite⟩ := hspells.eq_write
  have hdenotes : Denotes s.table (Quoted.double '\x22' name) :=
    hwrite ▸ .quoted (double_ne_nil hne)
  exact hdenotes.denoted_eq

end Statement

namespace Query
open Text TableName

/-- The columns of tables as they are added to a statement. -/
def quotedColumns (ts : List Table) : List Text :=
  (ts.flatMap Table.columns).map fun c => quoteName c.name

theorem quotedColumns_eq (ts : List Table) :
    quotedColumns ts = quotedNames (fun _ => true) (ts.flatMap Table.columns) := by
  rw [quotedNames, List.filter_true, quotedColumns]

/-- A request for all keys adds the columns of the tables that have the denoted name. -/
theorem answer_catalog {sql : Text} {s : Statement} (hread : Statement.read sql = .ok s)
    (hret : s.returning = false) (c : Catalog) :
    answer ((Source.catalog c).backend .builtin) sql (.wish .returnKeys) =
      .ok (Result.adding sql
        (quotedColumns (c.tables.filter fun t => t.name = denoted s.table))) := by
  have hanswer := @answer_all _ (fun pattern => .ok (c.lookup pattern)) sql s _ hread hret rfl
  rwa [c.lookup_pattern, ← quotedColumns_eq] at hanswer

/-- A request for all keys for a table that is written as a quoted identifier adds the columns of
the tables that have the identifier's name with its quotes doubled, in every catalog. These are the
tables that have the identifier's name in every catalog if and only if there is no quote in it. -/
theorem quoted_target_iff {sql name : Text} {s : Statement} {t : Token}
    (hread : Statement.read sql = .ok s) (hret : s.returning = false)
    (ht : t ∈ Token.lexemes sql) (hkind : t.kind = .quotedIdentifier name)
    (htable : t.raw = s.table) :
    let answered (c : Catalog) :=
      answer ((Source.catalog c).backend .builtin) sql (.wish .returnKeys)
    let named (c : Catalog) (name : Text) :=
      quotedColumns (c.tables.filter fun t => t.name = name)
    (∀ c, answered c = .ok (Result.adding sql (named c (Quoted.double '\x22' name)))) ∧
      ((∀ c, answered c = .ok (Result.adding sql (named c name))) ↔ '\x22' ∉ name) := by
  intro answered named
  have hanswered : ∀ c, answered c =
      .ok (Result.adding sql (named c (Quoted.double '\x22' name))) := by
    intro c
    rw [← Statement.denoted_of_quotedIdentifier ht hkind htable]
    exact answer_catalog hread hret c
  refine ⟨hanswered, fun hnamed => ?_, fun hquote c => ?_⟩
  · rw [← Quoted.double_eq_self_iff]
    by_contra hne
    -- A catalog with the named table alone tells the two names apart.
    have hsame := (hanswered ⟨[⟨name, [⟨[], 1⟩]⟩]⟩).symm.trans (hnamed _)
    simp [named, quotedColumns, Ne.symm hne, Result.adding] at hsame
  · rw [hanswered c, Quoted.double_eq_self_iff.2 hquote]

/-- Two tables, one for each reading of the name, and the columns of the wrong one. -/
theorem quoted_target_doubled :
    let sql := "DELETE FROM \"odd\"\"name\"".toList
    let catalog : Catalog := Catalog.ofNames
      [("odd\"name".toList, ["ID".toList]), ("odd\"\"name".toList, ["OTHER".toList])]
    Statement.read sql = .ok ⟨.delete, none, "\"odd\"\"name\"".toList, false⟩ ∧
      ⟨.quotedIdentifier "odd\"name".toList, "\"odd\"\"name\"".toList, 12⟩ ∈ Token.lexemes sql ∧
      answer ((Source.catalog catalog).backend .builtin) sql (.wish .returnKeys) =
        .ok ⟨true, "DELETE FROM \"odd\"\"name\"\nRETURNING \"OTHER\"".toList⟩ := by
  intro sql catalog
  have hread : Statement.read sql = .ok ⟨.delete, none, "\"odd\"\"name\"".toList, false⟩ := by
    decide +kernel
  have ht : ⟨.quotedIdentifier "odd\"name".toList, "\"odd\"\"name\"".toList, 12⟩ ∈
      Token.lexemes sql := by
    decide +kernel
  have hanswer := (quoted_target_iff hread rfl ht rfl rfl).1 catalog
  exact ⟨hread, ht, hanswer.trans (by decide +kernel)⟩

end Query
end GeneratedKeys
