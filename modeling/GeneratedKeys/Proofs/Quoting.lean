import GeneratedKeys.Proofs.Printing
import GeneratedKeys.Proofs.Rewriting

/-!
# The names in the clause

The names of columns stand in the clause between double quotes, as they are. A quoted identifier has
every quote in it doubled, so the clause names the columns that have been found if there is no quote
in their names, and only then.
-/
namespace GeneratedKeys

namespace Text.Quoted
variable {mark : Char}

theorem size_le_double (mark : Char) (t : Text) : t.size ≤ (double mark t).size := by
  induction t with
  | nil => exact Nat.le_refl _
  | cons c t ih =>
    unfold double
    split
    · next hc =>
      simp only [size_cons, hc]
      omega
    · simp only [size_cons]
      omega

theorem size_lt_double {t : Text} (h : mark ∈ t) : t.size < (double mark t).size := by
  induction t with
  | nil => cases h
  | cons c t ih =>
    have hle := size_le_double mark t
    unfold double
    split
    · next hc =>
      have hpos := mark.utf8Size_pos
      simp only [size_cons, hc]
      omega
    · next hc =>
      have hlt := ih ((List.mem_cons.1 h).resolve_left (Ne.symm hc))
      simp only [size_cons]
      omega

end Text.Quoted

namespace Token
open Text Query

/-- The kinds of a list of quoted identifiers. -/
def listed (names : List Text) : List Kind :=
  (names.map .quotedIdentifier).intersperse .comma

@[simp] theorem listed_nil : listed [] = [] := rfl

@[simp] theorem listed_singleton (name : Text) : listed [name] = [.quotedIdentifier name] := rfl

@[simp] theorem listed_cons_cons (name other : Text) (names : List Text) :
    listed (name :: other :: names) =
      .quotedIdentifier name :: .comma :: listed (other :: names) := rfl

/-- The text of a list of quoted names. -/
def listing (names : List Text) : Text :=
  List.intercalate [','] (names.map quoteName)

@[simp] theorem listing_singleton (name : Text) : listing [name] = quoteName name :=
  List.intercalate_singleton

@[simp] theorem listing_cons_cons (name other : Text) (names : List Text) :
    listing (name :: other :: names) = quoteName name ++ ',' :: listing (other :: names) := by
  rw [listing, List.map_cons, List.map_cons, List.intercalate_cons_cons, List.append_assoc]
  rfl

/-! ### Names without quotes -/

theorem spells_quoteName {name : Text} (hn : name ≠ []) (hq : '\x22' ∉ name) :
    Spells (.quotedIdentifier name) (quoteName name) := by
  have hwrite : quoteName name = Quoted.write '\x22' name := by
    rw [quoteName, Quoted.write, double_of_not_mem hq]
  rw [hwrite]
  exact .quotedIdentifier hn

theorem kinds_listing {names : List Text} (hn : ∀ name ∈ names, name ≠ [])
    (hq : ∀ name ∈ names, '\x22' ∉ name) (n : Nat) :
    (Cursor.lexemes ⟨listing names, n⟩).map Token.kind = listed names := by
  induction names generalizing n with
  | nil =>
    rw [listing, List.map_nil, List.intercalate_nil, Cursor.lexemes_nil rfl]
    rfl
  | cons name names ih =>
    have hname := spells_quoteName (hn name List.mem_cons_self) (hq name List.mem_cons_self)
    cases names with
    | nil =>
      rw [listing_singleton, hname.isLexeme.lexemes]
      rfl
    | cons other names =>
      have hrest := ih (fun name hm => hn name (List.mem_cons_of_mem _ hm))
        (fun name hm => hq name (List.mem_cons_of_mem _ hm))
      rw [listing_cons_cons, hname.lexemes_break breaks_comma,
        lexemes_delimiter (k := .comma) rfl, List.map_cons, List.map_cons, hrest]
      rfl

/-! ### Names with quotes -/

/-- The tokens of a text take up no more than the text. -/
theorem sum_size_lexemes_le (a : Text) (n : Nat) :
    ((Cursor.lexemes ⟨a, n⟩).map fun u => u.raw.size).sum ≤ a.size := by
  induction a using endPlace.induct generalizing n with
  | case1 a h =>
    rw [Cursor.lexemes_nil h]
    exact Nat.zero_le _
  | case2 a d t h ih =>
    have hrest := ih (n + (Layout.split .blank a).1.size + (take d t).1.raw.size)
    rw [Cursor.lexemes_cons h, List.map_cons, List.sum_cons, size_eq_of_split h]
    dsimp only
    omega

/-- A size that a token of a kind has at least. -/
def Kind.leastSize : Kind → Nat
  | .quotedIdentifier content => (Quoted.write '\x22' content).size
  | .comma => 1
  | _ => 0

theorem leastSize_le {t : Text} {u : Token} (hu : u ∈ lexemes t) :
    u.kind.leastSize ≤ u.raw.size := by
  by_cases hm : ∃ m, u.kind = .malformed m
  · obtain ⟨m, hm⟩ := hm
    rw [hm]
    exact Nat.zero_le _
  · have hs := spells_of_mem_lexemes hu fun m he => hm ⟨m, he⟩
    generalize u.kind = k at hs
    generalize u.raw = raw at hs
    cases hs with
    | quotedIdentifier => exact Nat.le_refl _
    | delimiter hd =>
      have hall : ∀ p ∈ delimiters, p.1.leastSize ≤ p.2.size := by decide
      exact hall _ hd
    | _ => exact Nat.zero_le _

theorem sum_leastSize_le (t : Text) :
    (((lexemes t).map Token.kind).map Kind.leastSize).sum ≤ t.size := by
  have hsum := sum_size_lexemes_le t 0
  rw [List.map_map]
  exact Nat.le_trans (List.sum_le_sum fun u hu => leastSize_le hu) hsum

/-- The size of the kinds in a list of quoted identifiers. -/
def listedSize (names : List Text) : Nat :=
  ((listed names).map Kind.leastSize).sum

theorem size_quoteName (name : Text) : (quoteName name).size = name.size + 2 := by
  have hquote : ('\x22' : Char).utf8Size = 1 := by decide
  simp only [quoteName, size_cons, size_append, size_nil, hquote]
  omega

theorem leastSize_quotedIdentifier (name : Text) :
    (Kind.quotedIdentifier name).leastSize = (Quoted.double '\x22' name).size + 2 := by
  have hquote : ('\x22' : Char).utf8Size = 1 := by decide
  simp only [Kind.leastSize, Quoted.write, size_cons, size_append, size_nil, hquote]
  omega

theorem listedSize_singleton (name : Text) :
    listedSize [name] = (Quoted.double '\x22' name).size + 2 := by
  simp only [listedSize, listed_singleton, List.map_cons, List.map_nil, List.sum_cons,
    List.sum_nil, leastSize_quotedIdentifier, Nat.add_zero]

theorem listedSize_cons_cons (name other : Text) (names : List Text) :
    listedSize (name :: other :: names) =
      (Quoted.double '\x22' name).size + 3 + listedSize (other :: names) := by
  simp only [listedSize, listed_cons_cons, List.map_cons, List.sum_cons,
    leastSize_quotedIdentifier]
  simp only [Kind.leastSize]
  omega

theorem size_listing_cons_cons (name other : Text) (names : List Text) :
    (listing (name :: other :: names)).size = name.size + 3 + (listing (other :: names)).size := by
  have hcomma : (',' : Char).utf8Size = 1 := by decide
  simp only [listing_cons_cons, size_append, size_cons, size_quoteName, hcomma]
  omega

theorem size_listing_le (names : List Text) : (listing names).size ≤ listedSize names := by
  induction names with
  | nil => exact Nat.zero_le _
  | cons name names ih =>
    have hname := Quoted.size_le_double '\x22' name
    cases names with
    | nil =>
      rw [listing_singleton, size_quoteName, listedSize_singleton]
      omega
    | cons other names =>
      rw [size_listing_cons_cons, listedSize_cons_cons]
      omega

/-- A quote in a name makes the list too short for its kinds. -/
theorem size_listing_lt {names : List Text} {name : Text} (h : name ∈ names)
    (hq : '\x22' ∈ name) : (listing names).size < listedSize names := by
  induction names with
  | nil => cases h
  | cons first names ih =>
    have hle := Quoted.size_le_double '\x22' first
    cases names with
    | nil =>
      have hlt := Quoted.size_lt_double hq
      rw [List.mem_singleton] at h
      rw [listing_singleton, size_quoteName, listedSize_singleton, ← h]
      omega
    | cons other names =>
      rw [size_listing_cons_cons, listedSize_cons_cons]
      rcases List.mem_cons.1 h with rfl | h
      · have hlt := Quoted.size_lt_double hq
        have hrest := size_listing_le (other :: names)
        omega
      · have hrest := ih h
        omega

/-- A list of quoted names has the names for its tokens if and only if there is no quote in them. -/
theorem kinds_listing_iff {names : List Text} (hn : ∀ name ∈ names, name ≠ []) (n : Nat) :
    (Cursor.lexemes ⟨listing names, n⟩).map Token.kind = listed names ↔
      ∀ name ∈ names, '\x22' ∉ name := by
  constructor
  · intro h name hname hq
    -- With its quotes doubled the name would take more room than there is.
    rw [Cursor.kinds_lexemes _ n 0] at h
    have hsum := sum_leastSize_le (listing names)
    rw [lexemes, Cursor.ofText, h] at hsum
    exact absurd hsum (Nat.not_le_of_gt (size_listing_lt hname hq))
  · exact fun hq => kinds_listing hn hq n

/-! ### The clause -/

/-- The clause is the word, on a new line, and the list. -/
theorem lexemes_clause (columns : List Text) (n : Nat) :
    Cursor.lexemes ⟨clause columns, n⟩ =
      ⟨.keyword .RETURNING, "RETURNING".toList, n + 1⟩ ::
        Cursor.lexemes ⟨List.intercalate [','] columns, n + 11⟩ := by
  have hc : clause columns =
      ['\n'] ++ ("RETURNING".toList ++ ' ' :: List.intercalate [','] columns) := rfl
  have hnewline : Layout.IsFiller ['\n'] := .blank (by decide) .nil
  have hword : Spells (.keyword .RETURNING) "RETURNING".toList := .keyword (by decide)
  rw [hc, Cursor.lexemes_filler hnewline, hword.lexemes_append (by decide), lexemes_space]
  rfl

theorem kinds_tokens_clause_iff {names : List Text} (hn : ∀ name ∈ names, name ≠ []) :
    (tokens (clause (names.map quoteName))).map Token.kind =
        .keyword .RETURNING :: (listed names ++ [.eof]) ↔
      ∀ name ∈ names, '\x22' ∉ name := by
  have hclause : (tokens (clause (names.map quoteName))).map Token.kind =
      .keyword .RETURNING :: ((Cursor.lexemes ⟨listing names, 11⟩).map Token.kind ++ [.eof]) := by
    rw [tokens, lexemes, Cursor.ofText, lexemes_clause, List.map_append, List.map_cons]
    rfl
  rw [hclause, ← kinds_listing_iff hn 11, List.cons.injEq, List.append_cancel_right_eq]
  exact and_iff_right rfl

end Token

namespace Query
open Token
variable {lookup : Text → Except String (List Column)}

/-- Whether a selection that is looked up takes a column. -/
def Selection.takes : Selection → Column → Bool
  | .all, _ => true
  | .positions wanted, c => wanted.contains c.position
  | .none, _ | .names _, _ => false

/-- The names of the columns that a selection takes of those that have been found, in their
order. -/
def Selection.namesOf (selection : Selection) (columns : List Column) : List Text :=
  (columns.filter selection.takes).map Column.name

theorem resolve_of_lookup {selection : Selection} {table : Text} {columns : List Column}
    (hselection : selection.isLookedUp = true)
    (hlookup : lookup (TableName.pattern table) = .ok columns) :
    selection.resolve lookup table = .ok ((selection.namesOf columns).map quoteName) := by
  cases selection with
  | none => cases hselection
  | names wanted => cases hselection
  | all =>
    rw [Selection.resolve, hlookup, Selection.namesOf, List.map_map]
    rfl
  | positions wanted =>
    rw [Selection.resolve, hlookup, Selection.namesOf, List.map_map]
    rfl

/-- Where processing adds a clause for columns that have been found, the clause names the columns
that the selection takes, in their order, if there is no quote in their names, and only then. -/
theorem kinds_appended_iff {sql : Text} {s : Statement} {selection : Selection}
    {columns : List Column} {r : Result}
    (hread : Statement.read sql = .ok s) (hret : s.returning = false)
    (hselection : selection.isLookedUp = true)
    (hlookup : lookup (TableName.pattern s.table) = .ok columns)
    (hnames : ∀ c ∈ columns, c.name ≠ [])
    (hprocess : ((ofSelection sql selection).process (.ofAnswers .builtin lookup)).2 = .ok r)
    (hkeys : r.generatesKeys = true) :
    ∃ appended, r.sql = dropSemicolon sql ++ appended ∧
      ((tokens appended).map Token.kind = .keyword .RETURNING ::
          (((selection.namesOf columns).map .quotedIdentifier).intersperse .comma ++ [.eof]) ↔
        ∀ name ∈ selection.namesOf columns, '\x22' ∉ name) := by
  rw [process_ofAnswers lookup sql (.inl rfl)] at hprocess
  obtain ⟨names, -, hresolve, hr⟩ := of_outcome hread hret hprocess hkeys
  rw [resolve_of_lookup hselection hlookup] at hresolve
  obtain rfl := Except.ok.inj hresolve
  refine ⟨_, hr, kinds_tokens_clause_iff fun name hname => ?_⟩
  obtain ⟨c, hc, rfl⟩ := List.mem_map.1 hname
  exact hnames c (List.mem_filter.1 hc).1

/-- A quote in the middle of a name ends the identifier there and opens another one. -/
theorem kinds_appended_quote :
    let sql := "INSERT INTO t (a) VALUES (1);".toList
    let columns := Column.numbered ["id".toList, "a\"b".toList]
    let appended := "\nRETURNING \"a\"b\"".toList
    ((ofSelection sql (.positions [2])).process (.ofAnswers .builtin fun _ => .ok columns)).2 =
        .ok ⟨true, dropSemicolon sql ++ appended⟩ ∧
      (tokens appended).map Token.kind = [.keyword .RETURNING, .quotedIdentifier ['a'],
        .identifier ['b'], .malformed .openIdentifier, .eof] ∧
      (tokens appended).map Token.kind ≠
        [.keyword .RETURNING, .quotedIdentifier "a\"b".toList, .eof] := by
  intro sql columns appended
  have hread : Statement.read sql = .ok ⟨.insert, none, "t".toList, false⟩ := by decide +kernel
  have hnames : ∀ c ∈ columns, c.name ≠ [] := by decide
  have hprocess : ((ofSelection sql (.positions [2])).process
      (.ofAnswers .builtin fun _ => .ok columns)).2 =
        .ok ⟨true, dropSemicolon sql ++ appended⟩ := by decide +kernel
  obtain ⟨other, hother, hiff⟩ := @kinds_appended_iff (fun _ => .ok columns) sql _ (.positions [2])
    columns _ hread rfl rfl rfl hnames hprocess rfl
  obtain rfl : appended = other := List.append_cancel_left hother
  refine ⟨hprocess, by decide +kernel, fun hkinds => ?_⟩
  exact hiff.1 hkinds "a\"b".toList (by decide) (by decide)

end Query
end GeneratedKeys
