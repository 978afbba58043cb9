import GeneratedKeys.Proofs.Agreement
import GeneratedKeys.Proofs.Recasing
import GeneratedKeys.Proofs.Renaming

/-!
# Letter case outside quotes

Texts that differ only in the case of ASCII letters, and in no string and no quoted identifier, are
statements of one form or no statements. The names of their tables can differ, but both are looked
up by one pattern. So what is asked of a source is the same, and so is what processing comes to, but
for the text that it starts from.
-/
namespace GeneratedKeys

namespace Token
open Text

/-- Whether the case of the letters in a token makes no difference. -/
def Kind.isCaseless : Kind → Bool
  | .number _ | .identifier _ | .keyword _ => true
  | _ => false

/-- Texts that differ only in the case of ASCII letters, and not where one of them has a token that
is no number, no keyword and no identifier without quotes. -/
structure Recased (a b : Text) : Prop where
  upper : asciiUpper a = asciiUpper b
  kept : ∀ t ∈ lexemes a, t.kind.isCaseless = false → t.span.slice? b = some t.raw

instance (a b : Text) : Decidable (Recased a b) :=
  decidable_of_iff
    (asciiUpper a = asciiUpper b ∧
      ∀ t ∈ lexemes a, t.kind.isCaseless = false → t.span.slice? b = some t.raw)
    ⟨fun h => ⟨h.1, h.2⟩, fun h => ⟨h.upper, h.kept⟩⟩

/-! ### Tokens -/

theorem shape_inUpper (k : Kind) : k.inUpper.shape = k.shape := by
  cases k <;> rfl

theorem slice?_of_mem_lexemes {b : Text} {u : Token} (hu : u ∈ lexemes b) :
    u.span.slice? b = some u.raw := by
  obtain ⟨before, c, rest, rfl, rfl⟩ := Cursor.exists_take_of_mem_lexemes hu
  simp only [span, stop, Nat.zero_add]
  rw [← take_append c rest]
  exact Span.slice?_append _ _ _

theorem exists_identifier_of_shape {k : Kind} (h : k.shape = .identifier []) :
    ∃ word, k = .identifier word := by
  cases k with
  | identifier word => exact ⟨word, rfl⟩
  | _ => cases h

theorem isWord_of_mem_lexemes {a : Text} {t : Token} (ht : t ∈ lexemes a)
    (hshape : t.kind.shape = .identifier []) : IsWord t.raw := by
  obtain ⟨word, hword⟩ := exists_identifier_of_shape hshape
  have hspells := spells_of_mem_lexemes ht fun m hm => by
    rw [hm] at hword
    cases hword
  rw [hword] at hspells
  cases hspells with
  | identifier h => exact h
  | delimiter hmem => simp [delimiters] at hmem

/-- A word is looked up by the same pattern in whatever case its letters are. -/
theorem pattern_asciiUpper {t : Text} (h : IsWord t) :
    TableName.pattern t = TableName.escapeWildcards (upper (asciiUpper t)) := by
  have hchar : ∀ c : Char, upperChar c.toUpper = upperChar c :=
    toUpper_congr (by decide +kernel)
  rw [TableName.pattern_eq, TableName.denoted_of_isWord h, upper, upper, asciiUpper,
    List.flatMap_map]
  simp only [hchar]

variable {a b : Text} {t u : Token}

/-- A token that keeps the case of its letters is written the same in both texts. -/
theorem Recased.raw_eq (h : Recased a b) (ht : t ∈ lexemes a) (hu : u ∈ lexemes b)
    (hupper : t.inUpper = u.inUpper) (hkeeps : t.kind.isCaseless = false) : t.raw = u.raw := by
  obtain ⟨-, hraw, hstart⟩ := Token.mk.inj hupper
  have hstop : t.stop = u.stop := by
    rw [stop, stop, hstart, ← size_asciiUpper, hraw, size_asciiUpper]
  have hkept := h.kept t ht hkeeps
  rw [span, hstart, hstop, ← span, slice?_of_mem_lexemes hu] at hkept
  exact (Option.some.inj hkept).symm

/-- Tokens that stand at the same place of both texts are alike once their texts are patterns. -/
theorem Recased.alike (h : Recased a b) (ht : t ∈ lexemes a) (hu : u ∈ lexemes b)
    (hupper : t.inUpper = u.inUpper) :
    Alike (t.renamed TableName.pattern) (u.renamed TableName.pattern) := by
  obtain ⟨hkind, hraw, -⟩ := Token.mk.inj hupper
  have hshape : t.kind.shape = u.kind.shape := by
    rw [← shape_inUpper t.kind, hkind, shape_inUpper]
  refine ⟨hshape, fun hidentifier => ?_⟩
  change t.kind.isIdentifier = true at hidentifier
  change TableName.pattern t.raw = TableName.pattern u.raw
  -- A word has the pattern of its upper case; a quoted name is the same in both texts.
  cases hk : t.kind with
  | identifier word =>
    have hplain : t.kind.shape = .identifier [] := by rw [hk, Kind.shape]
    have hword := isWord_of_mem_lexemes ht hplain
    have hother := isWord_of_mem_lexemes hu (hshape ▸ hplain)
    rw [pattern_asciiUpper hword, pattern_asciiUpper hother, hraw]
  | quotedIdentifier content =>
    have hkeeps : t.kind.isCaseless = false := by rw [hk]; rfl
    rw [h.raw_eq ht hu hupper hkeeps]
  | _ =>
    rw [hk] at hidentifier
    cases hidentifier

theorem Recased.forall₂_alike (h : Recased a b) :
    List.Forall₂ (fun t u => Alike (t.renamed TableName.pattern) (u.renamed TableName.pattern))
      (lexemes a) (lexemes b) := by
  have hmaps : (lexemes a).map inUpper = (lexemes b).map inUpper := by
    rw [← lexemes_asciiUpper, ← lexemes_asciiUpper, h.upper]
  rw [← List.forall₂_eq_eq_eq, List.forall₂_map_left_iff, List.forall₂_map_right_iff,
    List.forall₂_iff_zip] at hmaps
  obtain ⟨hlength, hzip⟩ := hmaps
  refine List.forall₂_iff_zip.2 ⟨hlength, fun hmem => ?_⟩
  obtain ⟨ht, hu⟩ := List.of_mem_zip hmem
  exact h.alike ht hu (hzip hmem)

end Token

/-! ### Statements -/

namespace Statement
open Token
variable {a b : Text}

/-- Both texts are rejected, or they are read as statements that are the same but for the names of
their tables, which are looked up by the same pattern. -/
theorem read_recased (h : Recased a b) :
    (read a).toOption.map (renamed TableName.pattern) =
      (read b).toOption.map (renamed TableName.pattern) :=
  read_renamed h.forall₂_alike

end Statement

/-! ### Queries -/

namespace Query
open Statement

/-- A backend that notes the patterns that it is asked for. -/
def Backend.noting (b : Backend Id) : Backend (StateM (List Text)) where
  read? := b.read?.map fun read sql => pure (read sql)
  columns pattern := do
    modify (· ++ [pattern])
    return b.columns pattern

/-- The patterns that are looked up in a source while a text is processed. -/
def patternsAsked (source : Source) (selection : Selection) (sql : Text) : List Text :=
  (((ofSelection sql selection).process (source.backend .builtin).noting).run []).2

/-- Noting the patterns changes nothing in what processing comes to. -/
theorem run_noting {b : Backend Id} {answer : Text → Except Rejection Statement}
    (hb : b.read? = some answer) (sql : Text) (selection : Selection) (asked : List Text) :
    (((ofSelection sql selection).process b.noting).run asked).1 =
      (ofSelection sql selection).process b := by
  have hread : b.noting.read? = some fun sql => pure (answer sql) := by
    rw [Backend.noting, hb]
    rfl
  have hfound : ((b.noting.consult selection (answer sql)).run asked).1 =
      b.consult selection (answer sql) := by
    cases answer sql with
    | error r => rfl
    | ok s =>
      simp only [Backend.consult]
      split <;> rfl
  have hplain : (ofSelection sql selection).process b = _ := process_of_read hb sql selection
  rw [run_process_of_read hread, hplain]
  exact congrArg (fun found => (settled (answering (answer sql)) (fun _ => found) sql selection,
    outcome (answering (answer sql)) (fun _ => found) sql selection)) hfound

theorem patternsAsked_eq (source : Source) (selection : Selection) (sql : Text) :
    patternsAsked source selection sql =
      (((source.backend .builtin).noting.consult selection (read sql)).run []).2 := by
  have hread : (source.backend .builtin).noting.read? = some fun sql => pure (read sql) := rfl
  have hrun := run_process_of_read hread sql selection []
  exact congrArg Prod.snd hrun

/-- What comes of two texts is the same: the same failure, or both texts are kept, or the same
columns are added to both. -/
inductive SameEnding (a b : Text) : Except Failure Result → Except Failure Result → Prop
  | failed (e : Failure) : SameEnding a b (.error e) (.error e)
  | kept (generatesKeys : Bool) : SameEnding a b (.ok ⟨generatesKeys, a⟩) (.ok ⟨generatesKeys, b⟩)
  | added (columns : List Text) : columns ≠ [] →
      SameEnding a b (.ok ⟨true, dropSemicolon a ++ clause columns⟩)
        (.ok ⟨true, dropSemicolon b ++ clause columns⟩)

theorem sameEnding_adding (a b : Text) (resolved : Except Failure (List Text)) :
    SameEnding a b (resolved.map (Result.adding a)) (resolved.map (Result.adding b)) := by
  cases resolved with
  | error e => exact .failed e
  | ok columns =>
    cases columns with
    | nil => exact .kept false
    | cons c cs => exact .added (c :: cs) (List.cons_ne_nil c cs)

/-- Two readings that are the same but for names with the same patterns. -/
theorem reading_cases {x y : Except Rejection Statement}
    (h : x.toOption.map (renamed TableName.pattern) = y.toOption.map (renamed TableName.pattern)) :
    (∃ r r', x = .error r ∧ y = .error r') ∨ ∃ s s', x = .ok s ∧ y = .ok s' ∧ s.kind = s'.kind ∧
      TableName.pattern s.table = TableName.pattern s'.table ∧ s.returning = s'.returning := by
  cases x with
  | error r =>
    cases y with
    | error r' => exact .inl ⟨r, r', rfl, rfl⟩
    | ok s' => cases h
  | ok s =>
    cases y with
    | error r' => cases h
    | ok s' =>
      obtain ⟨hkind, -, htable, hreturning⟩ := Statement.mk.inj (Option.some.inj h)
      exact .inr ⟨s, s', rfl, rfl, hkind, htable, hreturning⟩

section
variable {a b : Text} (h : Token.Recased a b)
include h

theorem consult_recased {m : Type → Type} [Monad m] (backend : Backend m) (selection : Selection) :
    backend.consult selection (read a) = backend.consult selection (read b) := by
  obtain ⟨r, r', ha, hb⟩ | ⟨s, s', ha, hb, -, htable, hreturning⟩ := reading_cases (read_recased h)
  · rw [ha, hb]
    rfl
  · rw [ha, hb]
    simp only [Backend.consult, htable, hreturning]

theorem outcome_recased (lookup : Text → Except String (List Column)) (selection : Selection) :
    SameEnding a b (outcome .builtin lookup a selection) (outcome .builtin lookup b selection) := by
  obtain ⟨r, r', ha, hb⟩ | ⟨s, s', ha, hb, -, htable, hreturning⟩ := reading_cases (read_recased h)
  · have hnone : statement? .builtin a = none := statement?_of_error ha
    have hnone' : statement? .builtin b = none := statement?_of_error hb
    simp only [outcome, hnone, hnone']
    exact .kept false
  · have hsome : statement? .builtin a = some s := statement?_of_ok ha
    have hsome' : statement? .builtin b = some s' := statement?_of_ok hb
    have hresolve : selection.resolve lookup s.table = selection.resolve lookup s'.table := by
      cases selection <;> simp only [Selection.resolve, htable]
    simp only [outcome, hsome, hsome', hreturning, hresolve]
    split
    · exact .kept true
    · exact sameEnding_adding a b _

end

/-- Of texts that differ only in the case of letters outside of strings and quoted identifiers both
or neither are read as statements, of the same kind and both returning columns or not; whatever is
selected and from whatever source, the same pattern is looked up, if any is, and what comes of the
texts is the same failure, the same flag, or the same clause added. -/
theorem process_recased {a b : Text} (h : Token.Recased a b) :
    ((read a).toOption.map fun s => (s.kind, s.returning)) =
        ((read b).toOption.map fun s => (s.kind, s.returning)) ∧
      ∀ (source : Source) (selection : Selection),
        patternsAsked source selection a = patternsAsked source selection b ∧
          SameEnding a b ((ofSelection a selection).process (source.backend .builtin)).2
            ((ofSelection b selection).process (source.backend .builtin)).2 := by
  refine ⟨?_, fun source selection => ⟨?_, ?_⟩⟩
  · have hforms := congrArg (Option.map fun s : Statement => (s.kind, s.returning)) (read_recased h)
    rwa [Option.map_map, Option.map_map] at hforms
  · rw [patternsAsked_eq, patternsAsked_eq, consult_recased h]
  · rw [process_backend, process_backend]
    exact outcome_recased h _ selection

/-- Words, a number and a comment change their case, a quoted name and a string do not. -/
theorem process_recased_mixed :
    let a := "insert into tab (\"Id\") values (1e5, 'It') -- Note".toList
    let b := "INSERT Into Tab (\"Id\") VALUES (1E5, 'It') -- nOTE".toList
    let source := Source.catalog (Catalog.ofNames [("TAB".toList, ["Id".toList, "AT".toList])])
    Token.Recased a b ∧ patternsAsked source .all a = ["TAB".toList] ∧
      patternsAsked source .all b = ["TAB".toList] ∧
        SameEnding a b ((ofSelection a .all).process (source.backend .builtin)).2
          ((ofSelection b .all).process (source.backend .builtin)).2 := by
  intro a b source
  have hab : Token.Recased a b := by decide +kernel
  have hasked : patternsAsked source .all a = ["TAB".toList] := by decide +kernel
  obtain ⟨-, hall⟩ := process_recased hab
  obtain ⟨hsame, hending⟩ := hall source .all
  exact ⟨hab, hasked, hsame ▸ hasked, hending⟩

end Query
end GeneratedKeys
