import GeneratedKeys.Proofs.Outline

/-!
# Reading renamed tokens

The reader carries the names of a table along and does not look into them. So tokens whose texts are
changed by any function are read as the statement whose names are changed by it, and texts whose
tokens are alike once they are changed are read as statements that are the same once they are
changed.
-/
namespace GeneratedKeys

/-- A token whose text is changed, but not its kind. -/
def Token.renamed (f : Text → Text) (t : Token) : Token :=
  ⟨t.kind, f t.raw, t.start⟩

namespace Statement
open Token

def Target.renamed (f : Text → Text) (target : Target) : Target :=
  ⟨target.schema.map f, f target.table⟩

/-- A statement whose schema and table are changed. -/
def renamed (f : Text → Text) (s : Statement) : Statement :=
  ⟨s.kind, s.schema.map f, f s.table, s.returning⟩

namespace Reader

def State.renamed (f : Text → Text) : State → State
  | .named kind first => .named kind (f first)
  | .qualified kind schema => .qualified kind (f schema)
  | .located kind target => .located kind (target.renamed f)
  | .column kind target => .column kind (target.renamed f)
  | .columnEnd kind target => .columnEnd kind (target.renamed f)
  | .source kind target => .source kind (target.renamed f)
  | .values kind target => .values kind (target.renamed f)
  | .defaults kind target => .defaults kind (target.renamed f)
  | .byname kind target => .byname kind (target.renamed f)
  | .clause kind target => .clause kind (target.renamed f)
  | .assignee kind target => .assignee kind (target.renamed f)
  | .assigned kind target => .assigned kind (target.renamed f)
  | .field kind target => .field kind (target.renamed f)
  | .equals kind target => .equals kind (target.renamed f)
  | .body kind target depth returning => .body kind (target.renamed f) depth returning
  | .closed kind target returning => .closed kind (target.renamed f) returning
  | s => s

variable (f : Text → Text)

/-! ### One token -/

theorem settle_renamed (s : State) : (s.renamed f).settle = s.settle.renamed f := by
  have hafter : ∀ (kind : Kind) (target : Target),
      afterTarget kind (target.renamed f) = (afterTarget kind target).renamed f := by
    intro kind target
    cases kind <;> rfl
  cases s with
  | named kind first => exact hafter kind ⟨none, first⟩
  | located kind target => exact hafter kind target
  | clause kind target => cases kind <;> rfl
  | _ => rfl

theorem expected_renamed (s : State) : (s.renamed f).expected = s.expected := by
  cases s with
  | source kind target => cases kind <;> rfl
  | _ => rfl

theorem optionAfterTarget?_renamed (kind : Kind) (target : Target) (k : Token.Kind) :
    optionAfterTarget? kind (target.renamed f) k =
      (optionAfterTarget? kind target k).map (State.renamed f) := by
  cases k with
  | keyword w => cases kind <;> cases w <;> rfl
  | _ => cases kind <;> rfl

theorem option?_renamed (s : State) (k : Token.Kind) :
    option? (s.renamed f) k = (option? s k).map (State.renamed f) := by
  cases s with
  | named kind first =>
    cases k with
    | dot => rfl
    | _ => exact optionAfterTarget?_renamed f kind ⟨none, first⟩ _
  | located kind target => exact optionAfterTarget?_renamed f kind target k
  | update =>
    cases k with
    | keyword w => cases w <;> rfl
    | _ => rfl
  | _ => cases k <;> rfl

theorem required?_renamed (s : State) (t : Token) :
    required? (s.renamed f) (t.renamed f) = (required? s t).map (State.renamed f) := by
  obtain ⟨k, raw, start⟩ := t
  cases k with
  | keyword w =>
    cases s with
    | source kind target => cases kind <;> cases w <;> rfl
    | _ => cases w <;> rfl
  | _ =>
    cases s with
    | source kind target => cases kind <;> rfl
    | _ => rfl

theorem bodyStep_renamed (kind : Kind) (target : Target) (depth : Nat) (returning : Bool)
    (k : Token.Kind) :
    bodyStep kind (target.renamed f) depth returning k =
      (bodyStep kind target depth returning k).map (State.renamed f) := by
  cases k with
  | rightParen => cases depth <;> rfl
  | semicolon => cases depth <;> rfl
  | keyword w => cases w <;> rfl
  | _ => rfl

theorem advance_renamed (s : State) (t : Token) :
    advance (s.renamed f) (t.renamed f) = (advance s t).map (State.renamed f) := by
  have hrequired := required?_renamed f s t
  have hexpected := expected_renamed f s
  cases s with
  | body kind target depth returning => exact bodyStep_renamed f kind target depth returning t.kind
  | closed kind target returning => rfl
  -- At the start MERGE is refused in its own way.
  | start =>
    have hkind : (t.renamed f).kind = t.kind := rfl
    simp only [State.renamed] at hrequired ⊢
    simp only [advance, hrequired, hkind]
    cases required? .start t with
    | some s' => rfl
    | none =>
      simp only [Option.map_none]
      split <;> rfl
  | _ =>
    simp only [State.renamed] at hrequired hexpected ⊢
    simp only [advance, hrequired, hexpected, reduceCtorEq, false_and, if_false]
    cases required? _ t <;> rfl

/-- A changed token leads to the changed state, and it is refused where the token is. -/
theorem step_renamed (s : State) (t : Token) :
    step (s.renamed f) (t.renamed f) = (step s t).map (State.renamed f) := by
  have hoption : option? (s.renamed f) (t.renamed f).kind = _ := option?_renamed f s t.kind
  rw [step, step, hoption]
  cases option? s t.kind with
  | some s' => rfl
  | none =>
    simp only [Option.map_none, settle_renamed]
    exact advance_renamed f s.settle t

theorem finish_renamed (s : State) :
    finish (s.renamed f) = (finish s).map (Statement.renamed f) := by
  rw [finish, finish, settle_renamed]
  cases s.settle with
  | body kind target depth returning => cases depth <;> rfl
  | source kind target => cases kind <;> rfl
  | _ => rfl

/-! ### All tokens -/

theorem run_renamed (s : State) (ts : List Token) :
    (run (s.renamed f) (ts.map (Token.renamed f))).toOption =
      (run s ts).toOption.map (State.renamed f) := by
  induction ts generalizing s with
  | nil => rfl
  | cons t ts ih =>
    rw [List.map_cons, run_cons_eq, run_cons_eq, step_renamed]
    cases step s t with
    | error e => rfl
    | ok s' => exact ih s'

end Reader

theorem toOption_readTokens (s : Reader.State) (ts : List Token) (last : Token) :
    (readTokens s ts last).toOption =
      (Reader.run s ts).toOption.bind fun s' => (Reader.finish s').toOption := by
  rw [readTokens]
  cases Reader.run s ts with
  | error e => rfl
  | ok s' =>
    change ((Reader.finish s').mapError _).toOption = (Reader.finish s').toOption
    cases Reader.finish s' <;> rfl

/-- Changed tokens are read as the changed statement. -/
theorem readTokens_renamed (f : Text → Text) (ts : List Token) (last : Token) :
    (readTokens .start (ts.map (Token.renamed f)) last).toOption =
      (readTokens .start ts last).toOption.map (Statement.renamed f) := by
  have hrun : (Reader.run .start (ts.map (Token.renamed f))).toOption = _ :=
    Reader.run_renamed f .start ts
  rw [toOption_readTokens, toOption_readTokens, hrun]
  cases (Reader.run .start ts).toOption with
  | none => rfl
  | some s =>
    change (Reader.finish (s.renamed f)).toOption = (Reader.finish s).toOption.map _
    rw [Reader.finish_renamed]
    cases Reader.finish s <;> rfl

theorem Parallel.toOption_eq {α : Type} {ts us : List Token} {x y : Except Rejection α}
    (h : Parallel ts us x y) : x.toOption = y.toOption := by
  cases h <;> rfl

/-- Texts whose tokens are alike once they are changed are read as statements that are the same once
they are changed, or both are rejected. -/
theorem read_renamed {f : Text → Text} {a b : Text}
    (h : List.Forall₂ (fun t u => Alike (t.renamed f) (u.renamed f)) (lexemes a) (lexemes b)) :
    (read a).toOption.map (Statement.renamed f) = (read b).toOption.map (Statement.renamed f) := by
  have halike : List.Forall₂ Alike ((lexemes a).map (Token.renamed f))
      ((lexemes b).map (Token.renamed f)) :=
    List.forall₂_map_left_iff.2 (List.forall₂_map_right_iff.2 h)
  have hparallel := parallel_readTokens halike (atEnd a) (atEnd b) .start
  calc (read a).toOption.map (Statement.renamed f)
    _ = (readTokens .start ((lexemes a).map (Token.renamed f)) (atEnd a)).toOption :=
      (readTokens_renamed f (lexemes a) (atEnd a)).symm
    _ = (readTokens .start ((lexemes b).map (Token.renamed f)) (atEnd b)).toOption :=
      hparallel.toOption_eq
    _ = (read b).toOption.map (Statement.renamed f) := readTokens_renamed f (lexemes b) (atEnd b)

end Statement
end GeneratedKeys
