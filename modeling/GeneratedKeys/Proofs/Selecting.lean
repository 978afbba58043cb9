import GeneratedKeys.Proofs.Resolving

/-!
# Columns by position

A request for positions adds the columns whose positions it lists, and only the set of these
positions matters: not their order, nor how often each is listed. The columns stay in the order of
the source, so they ascend for every request only where the columns of the source do.
-/
namespace GeneratedKeys

namespace Column

/-- Columns whose positions never go down. -/
def Ascending (columns : List Column) : Prop :=
  columns.Pairwise fun c d => c.position ≤ d.position

theorem ascending_numbered (names : List Text) : Ascending (numbered names) := by
  have hpositions : ((numbered names).map Column.position).Pairwise (· ≤ ·) := by
    rw [map_position_numbered, List.pairwise_map]
    exact List.pairwise_le_range'.imp Int.ofNat_le.2
  exact List.pairwise_map.1 hpositions

end Column

namespace Query
open Column

/-- What a request for a text comes to if it is processed at once. -/
def answer (b : Backend Id) (sql : Text) (request : Request) : Except Failure Result :=
  (make b.read?.isSome sql request).bind fun q => (q.process b).2

theorem quotedNames_congr {p q : Int → Bool} {columns : List Column}
    (h : ∀ c ∈ columns, p c.position = q c.position) :
    quotedNames p columns = quotedNames q columns := by
  rw [quotedNames, List.filter_congr h, quotedNames]

/-- Wanting more positions takes no column away. -/
theorem quotedNames_sublist {p q : Int → Bool} (h : ∀ n, p n = true → q n = true)
    (columns : List Column) : (quotedNames p columns).Sublist (quotedNames q columns) :=
  (List.monotone_filter_right columns fun c => h c.position).map _

section
variable {read : Text → Except Statement.Rejection Statement}
  {lookup : Text → Except String (List Column)} {sql : Text} {s : Statement}
  {columns : List Column}

theorem answer_of_selection {request : Request} {selection : Selection}
    (h : request.selection true = .ok selection) :
    answer (.ofAnswers ⟨some read⟩ lookup) sql request = outcome ⟨some read⟩ lookup sql selection := by
  have hmake : make true sql request = .ok (ofSelection sql selection) := by
    rw [make, h]
    rfl
  exact (congrArg (·.bind fun q => (q.process (.ofAnswers ⟨some read⟩ lookup)).2) hmake).trans
    (congrArg Prod.snd (process_ofAnswers lookup sql (.inl rfl)))

theorem outcome_of_resolve {selection : Selection} {names : List Text}
    (hread : read sql = .ok s) (hret : s.returning = false)
    (h : selection.resolve lookup s.table = .ok names) :
    outcome ⟨some read⟩ lookup sql selection = .ok (Result.adding sql names) := by
  simp only [outcome, statement?_of_ok hread, hret, h]
  rfl

theorem answer_all (hread : read sql = .ok s) (hret : s.returning = false)
    (hlookup : lookup (TableName.pattern s.table) = .ok columns) :
    answer (.ofAnswers ⟨some read⟩ lookup) sql (.wish .returnKeys) =
      .ok (Result.adding sql (quotedNames (fun _ => true) columns)) := by
  rw [answer_of_selection rfl]
  refine outcome_of_resolve hread hret ?_
  rw [Selection.resolve, hlookup]
  rfl

/-- A list of positions adds the columns at these positions, and an empty one adds none. -/
theorem answer_positions (hread : read sql = .ok s) (hret : s.returning = false)
    (hlookup : lookup (TableName.pattern s.table) = .ok columns) (wanted : List Int) :
    answer (.ofAnswers ⟨some read⟩ lookup) sql (.positions (some wanted)) =
      .ok (Result.adding sql (quotedNames (· ∈ wanted) columns)) := by
  cases wanted with
  | nil =>
    have hnone : quotedNames (· ∈ []) columns = [] := by simp [quotedNames]
    rw [answer_of_selection rfl, hnone]
    exact outcome_of_resolve hread hret rfl
  | cons n wanted =>
    have hnames : quotedNames (n :: wanted).contains columns =
        quotedNames (· ∈ n :: wanted) columns :=
      quotedNames_congr fun c _ => List.contains_eq_mem c.position (n :: wanted)
    rw [answer_of_selection rfl, ← hnames]
    refine outcome_of_resolve hread hret ?_
    rw [Selection.resolve, hlookup]
    rfl

/-- A request for positions adds exactly the columns at these positions, in the order of the
source. The order of the request and its repetitions do not matter, what is added is part of what
all columns add, in the same order, and wanting more positions takes nothing away. -/
theorem positions_select_set (hread : read sql = .ok s) (hret : s.returning = false)
    (hlookup : lookup (TableName.pattern s.table) = .ok columns) :
    let answered := answer (.ofAnswers ⟨some read⟩ lookup) sql
    let named (wanted : List Int) := quotedNames (· ∈ wanted) columns
    let all := columns.map fun c => quoteName c.name
    (∀ wanted, answered (.positions (some wanted)) = .ok (Result.adding sql (named wanted))) ∧
    (∀ wanted wanted' : List Int, (∀ n, n ∈ wanted ↔ n ∈ wanted') →
      answered (.positions (some wanted)) = answered (.positions (some wanted'))) ∧
    answered (.wish .returnKeys) = .ok (Result.adding sql all) ∧
    (∀ wanted, (named wanted).Sublist all ∧
      ((∀ c ∈ columns, c.position ∈ wanted) → named wanted = all)) ∧
    ∀ wanted wanted' : List Int, wanted ⊆ wanted' → (named wanted).Sublist (named wanted') := by
  intro answered named all
  have hall : quotedNames (fun _ => true) columns = all := by rw [quotedNames, List.filter_true]
  have hpositions := answer_positions hread hret hlookup
  refine ⟨hpositions, fun wanted wanted' h => ?_, hall ▸ answer_all hread hret hlookup,
    fun wanted => ?_, fun wanted wanted' h => ?_⟩
  · have hnamed : named wanted = named wanted' :=
      quotedNames_congr fun c _ => decide_eq_decide.2 (h c.position)
    calc answered (.positions (some wanted))
      _ = .ok (Result.adding sql (named wanted)) := hpositions wanted
      _ = .ok (Result.adding sql (named wanted')) := by rw [hnamed]
      _ = answered (.positions (some wanted')) := (hpositions wanted').symm
  · rw [← hall]
    refine ⟨quotedNames_sublist (fun _ _ => rfl) columns, fun h => ?_⟩
    exact quotedNames_congr fun c hc => decide_eq_true (h c hc)
  · exact quotedNames_sublist (fun n hn => decide_eq_true (h (of_decide_eq_true hn))) columns

end

/-- Repeated, negative and unknown positions, and a source that repeats one. -/
theorem positions_select_set_repeated :
    let sql := "UPDATE t SET a = 1;".toList
    let columns : List Column := [⟨['B'], 3⟩, ⟨['A'], 1⟩, ⟨['C'], 3⟩, ⟨['D'], -2⟩]
    let answered := answer (.ofAnswers .builtin fun _ => .ok columns) sql
    Statement.read sql = .ok ⟨.update, none, ['t'], false⟩ ∧
      answered (.positions (some [9, 3, -2, 3])) =
        .ok ⟨true, "UPDATE t SET a = 1\nRETURNING \"B\",\"C\",\"D\"".toList⟩ ∧
      answered (.positions (some [9, 3, -2, 3])) = answered (.positions (some [3, -2, 9])) ∧
      answered (.positions (some [9])) = .ok ⟨false, sql⟩ := by
  intro sql columns answered
  have hread : Statement.read sql = .ok ⟨.update, none, ['t'], false⟩ := by decide +kernel
  obtain ⟨hpositions, hset, -⟩ :=
    @positions_select_set _ (fun _ => .ok columns) _ _ _ hread rfl rfl
  refine ⟨hread, (hpositions _).trans (by decide +kernel), hset _ _ ?_,
    (hpositions _).trans (by decide +kernel)⟩
  simp only [List.mem_cons, List.not_mem_nil]
  grind

/-- In a catalog the columns added for positions stay in the order of their tables. They ascend
for every request if and only if all columns found for the table do, as those of one table do that
is numbered in its order. -/
theorem positions_ascend_iff {read : Text → Except Statement.Rejection Statement} {sql : Text}
    {s : Statement} (hread : read sql = .ok s) (hret : s.returning = false) (catalog : Catalog) :
    let found := catalog.lookup (TableName.pattern s.table)
    let kept (wanted : List Int) := found.filter fun c => c.position ∈ wanted
    (∀ wanted,
      answer ((Source.catalog catalog).backend ⟨some read⟩) sql (.positions (some wanted)) =
          .ok (Result.adding sql ((kept wanted).map fun c => quoteName c.name)) ∧
        (Ascending (kept wanted) ↔ found.Pairwise fun c d =>
          c.position ∈ wanted → d.position ∈ wanted → c.position ≤ d.position)) ∧
    ((∀ wanted, wanted ≠ [] → Ascending (kept wanted)) ↔ Ascending found) ∧
    ∀ name names, (catalog.tables.filter fun t => Catalog.fits (TableName.pattern s.table) t.name) =
      [Table.ofNames name names] → Ascending found := by
  intro found kept
  refine ⟨fun wanted => ⟨?_, ?_⟩, ⟨fun h => ?_, fun h wanted _ => ?_⟩, fun name names h => ?_⟩
  · exact @answer_positions read _ sql s found hread hret rfl wanted
  · simp [Ascending, kept, List.pairwise_filter]
  · by_cases hnil : found = []
    · rw [hnil]
      exact List.Pairwise.nil
    · have hall : kept (found.map Column.position) = found :=
        List.filter_eq_self.2 fun c hc => decide_eq_true (List.mem_map_of_mem hc)
      have hne : found.map Column.position ≠ [] := by simpa using hnil
      exact hall ▸ h _ hne
  · exact h.sublist List.filter_sublist
  · have hfound : found = numbered names := by
      simp [found, Catalog.lookup, h, Table.ofNames]
    exact hfound ▸ ascending_numbered names

/-- A table that lists its columns out of order: positions that are wanted in ascending order are
answered in the order of the table. -/
theorem positions_ascend_iff_table :
    let sql := "INSERT INTO t (a) VALUES (1)".toList
    let catalog : Catalog := ⟨[⟨['T'], [⟨['A'], 3⟩, ⟨['B'], 1⟩]⟩]⟩
    Statement.read sql = .ok ⟨.insert, none, ['t'], false⟩ ∧
      answer ((Source.catalog catalog).backend .builtin) sql (.positions (some [1, 3])) =
        .ok ⟨true, "INSERT INTO t (a) VALUES (1)\nRETURNING \"A\",\"B\"".toList⟩ ∧
      ¬ Ascending ((catalog.lookup ['T']).filter fun c => c.position ∈ [1, 3]) := by
  intro sql catalog
  have hread : Statement.read sql = .ok ⟨.insert, none, ['t'], false⟩ := by decide +kernel
  have hfound : catalog.lookup ['T'] = [⟨['A'], 3⟩, ⟨['B'], 1⟩] := by decide +kernel
  have hpattern : TableName.pattern ['t'] = ['T'] := by decide +kernel
  obtain ⟨hanswer, hiff⟩ := (positions_ascend_iff hread rfl catalog).1 [1, 3]
  refine ⟨hread, ?_, ?_⟩
  · exact hanswer.trans (by decide +kernel)
  · intro h
    rw [← hpattern] at h
    have hpairs := hiff.1 h
    rw [hpattern, hfound] at hpairs
    revert hpairs
    decide

end Query
end GeneratedKeys
