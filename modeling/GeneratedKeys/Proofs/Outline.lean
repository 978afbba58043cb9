import GeneratedKeys.Proofs.Nesting
import Mathlib.Data.List.Forall2

/-!
# Reading the outline

Of a token the reader looks at the constructor, at the word of a keyword and at the text of an
identifier, and not at its place or at the content of a number, a string, an operator or a malformed
piece of text. So texts whose tokens are alike in this are read as the same statement, or they are
rejected at the same token and for want of the same thing.
-/
namespace GeneratedKeys

namespace Token

/-- A kind without the content of a token, but with the word of a keyword. -/
def Kind.shape : Kind → Kind
  | .number _ => .number []
  | .string _ => .string []
  | .identifier _ => .identifier []
  | .quotedIdentifier _ => .quotedIdentifier []
  | .operator _ => .operator []
  | .malformed _ => .malformed .openString
  | k => k

/-- Tokens of one constructor and keyword; identifiers are written the same. -/
structure Alike (t u : Token) : Prop where
  shape : t.kind.shape = u.kind.shape
  raw : t.kind.isIdentifier = true → t.raw = u.raw

instance (t u : Token) : Decidable (Alike t u) :=
  decidable_of_iff
    (t.kind.shape = u.kind.shape ∧ (t.kind.isIdentifier = true → t.raw = u.raw))
    ⟨fun h => ⟨h.1, h.2⟩, fun h => ⟨h.shape, h.raw⟩⟩

/-- What the reader looks at in a token. -/
def outline (t : Token) : Token :=
  ⟨t.kind.shape, if t.kind.isIdentifier = true then t.raw else [], 0⟩

theorem isIdentifier_shape (k : Kind) : k.shape.isIdentifier = k.isIdentifier := by
  fun_cases Kind.shape k <;> rfl

theorem Alike.outline {t u : Token} (h : Alike t u) : t.outline = u.outline := by
  have hi : t.kind.isIdentifier = u.kind.isIdentifier := by
    rw [← isIdentifier_shape, h.shape, isIdentifier_shape]
  simp only [Token.outline, h.shape, Token.mk.injEq, true_and, and_true, ← hi]
  split
  · next hk => exact h.raw hk
  · rfl

end Token

namespace Statement
open Token

namespace Reader

/-! ### One token -/

theorem optionAfterTarget?_shape (kind : Kind) (target : Target) (k : Token.Kind) :
    optionAfterTarget? kind target k.shape = optionAfterTarget? kind target k := by
  cases kind <;> cases k <;> rfl

theorem option?_shape (s : State) (k : Token.Kind) : option? s k.shape = option? s k := by
  cases s with
  | named kind first =>
    cases k with
    | dot => rfl
    | _ => exact optionAfterTarget?_shape kind ⟨none, first⟩ _
  | located kind target => exact optionAfterTarget?_shape kind target k
  | _ => cases k <;> rfl

theorem required?_outline (s : State) (t : Token) : required? s t.outline = required? s t := by
  obtain ⟨k, raw, start⟩ := t
  cases k with
  | keyword w =>
    cases s with
    | source kind target => cases kind <;> cases w <;> rfl
    | _ => cases w <;> rfl
  | _ =>
    cases s with
    | source kind target => cases kind <;> rfl
    | _ => rfl

theorem isMerge_shape (k : Token.Kind) : k.shape = .keyword .MERGE ↔ k = .keyword .MERGE := by
  cases k <;> simp [Kind.shape]

theorem bodyStep_shape (kind : Kind) (target : Target) (depth : Nat) (returning : Bool)
    (k : Token.Kind) :
    (bodyStep kind target depth returning k.shape).mapError Fault.expected? =
      (bodyStep kind target depth returning k).mapError Fault.expected? := by
  cases k <;> rfl

/-- What had to come does not depend on what came instead. -/
theorem advance_outline (s : State) (t : Token) :
    (advance s t.outline).mapError Fault.expected? =
      (advance s t).mapError Fault.expected? := by
  have hmerge : s = .start ∧ t.outline.kind = .keyword .MERGE ↔
      s = .start ∧ t.kind = .keyword .MERGE := and_congr_right fun _ => isMerge_shape t.kind
  fun_cases advance s t with
  | case1 kind target depth returning => exact bodyStep_shape kind target depth returning t.kind
  | case2 => rfl
  | case3 s s' hbody hclosed hs => simp [advance, required?_outline, hs]
  | case4 s hbody hclosed hs hm =>
    simp only [advance, required?_outline, hs, hmerge, if_pos hm]
  | case5 s hbody hclosed hs hm =>
    simp only [advance, required?_outline, hs, hmerge, if_neg hm]
    rfl

theorem step_outline (s : State) (t : Token) :
    (step s t.outline).mapError Fault.expected? = (step s t).mapError Fault.expected? := by
  have ho : option? s t.outline.kind = option? s t.kind := option?_shape s t.kind
  rw [step, step, ho]
  cases option? s t.kind with
  | none => exact advance_outline s.settle t
  | some s' => rfl

/-- Tokens that are alike lead to the same state, or they are refused for want of the same thing. -/
theorem step_alike {t u : Token} (h : Alike t u) (s : State) :
    (∃ s', step s t = .ok s' ∧ step s u = .ok s') ∨
      ∃ f g, step s t = .error f ∧ step s u = .error g ∧ f.expected? = g.expected? := by
  have hmap : (step s t).mapError Fault.expected? = (step s u).mapError Fault.expected? := by
    rw [← step_outline, h.outline, step_outline]
  cases ht : step s t with
  | ok s' =>
    cases hu : step s u with
    | ok v =>
      rw [ht, hu] at hmap
      cases hmap
      exact .inl ⟨s', rfl, rfl⟩
    | error g =>
      rw [ht, hu] at hmap
      cases hmap
  | error f =>
    cases hu : step s u with
    | ok v =>
      rw [ht, hu] at hmap
      cases hmap
    | error g =>
      rw [ht, hu] at hmap
      exact .inr ⟨f, g, rfl, rfl, Except.error.inj hmap⟩

end Reader

/-! ### All tokens -/

/-- Two outcomes over lists of tokens: the same value, or faults at the same position in each list
and for want of the same thing. -/
inductive Parallel {α : Type} (ts us : List Token) :
    Except Rejection α → Except Rejection α → Prop
  | ok (a : α) : Parallel ts us (.ok a) (.ok a)
  | error {t u : Token} {f g : Fault} (i : Nat) : ts[i]? = some t → us[i]? = some u →
      f.expected? = g.expected? → Parallel ts us (.error (f.at t)) (.error (g.at u))

theorem Parallel.cons {α : Type} {ts us : List Token} {x y : Except Rejection α}
    (h : Parallel ts us x y) (t u : Token) : Parallel (t :: ts) (u :: us) x y := by
  cases h with
  | ok a => exact .ok a
  | error i ht hu he => exact .error (i + 1) ht hu he

theorem run_cons_eq (s : Reader.State) (t : Token) (ts : List Token) :
    Reader.run s (t :: ts) =
      ((Reader.step s t).mapError (·.at t)).bind fun s' => Reader.run s' ts := rfl

/-- The statement that tokens and one that marks their end are read as. -/
def readTokens (s : Reader.State) (ts : List Token) (last : Token) : Except Rejection Statement :=
  (Reader.run s ts).bind fun s' => (Reader.finish s').mapError (·.at last)

theorem parallel_readTokens {ts us : List Token} (h : List.Forall₂ Alike ts us) (t u : Token)
    (s : Reader.State) :
    Parallel (ts ++ [t]) (us ++ [u]) (readTokens s ts t) (readTokens s us u) := by
  induction h generalizing s with
  | nil =>
    change Parallel [t] [u] ((Reader.finish s).mapError (·.at t))
      ((Reader.finish s).mapError (·.at u))
    cases Reader.finish s with
    | ok st => exact .ok st
    | error f => exact .error 0 rfl rfl rfl
  | @cons v w ts us hvw _ ih =>
    have hstep := Reader.step_alike hvw s
    rcases hstep with ⟨s', hv, hw⟩ | ⟨f, g, hv, hw, he⟩
    · have hrest := (ih s').cons v w
      simp only [readTokens, run_cons_eq, hv, hw]
      exact hrest
    · simp only [readTokens, run_cons_eq, hv, hw]
      exact .error 0 rfl rfl he

/-- Texts whose tokens are alike are read as the same statement, or both are rejected, at tokens of
the same position and for want of the same thing. -/
theorem read_alike {a b : Text} (h : List.Forall₂ Alike (tokens a) (tokens b)) :
    Parallel (tokens a) (tokens b) (read a) (read b) := by
  have hlength : (lexemes a).length = (lexemes b).length := by
    have htokens := h.length_eq
    simp only [tokens, List.length_append, List.length_singleton] at htokens
    omega
  have htake := List.forall₂_take (lexemes a).length h
  rw [tokens, List.take_left, hlength, tokens, List.take_left] at htake
  exact parallel_readTokens htake (atEnd a) (atEnd b) .start

/-- Both texts lack the opening parenthesis behind VALUES, in different places. -/
theorem read_alike_refused :
    List.Forall₂ Alike (tokens "INSERT INTO t (a) VALUES 'x'".toList)
        (tokens "insert/**/into t(a)values\n--(\n'it''s'".toList) ∧
      Parallel (tokens "INSERT INTO t (a) VALUES 'x'".toList)
        (tokens "insert/**/into t(a)values\n--(\n'it''s'".toList)
        (read "INSERT INTO t (a) VALUES 'x'".toList)
        (read "insert/**/into t(a)values\n--(\n'it''s'".toList) := by
  have h : List.Forall₂ Alike (tokens "INSERT INTO t (a) VALUES 'x'".toList)
      (tokens "insert/**/into t(a)values\n--(\n'it''s'".toList) := by
    decide +kernel
  exact ⟨h, read_alike h⟩

end Statement
end GeneratedKeys
