import GeneratedKeys.Proofs.Spelling

/-!
# Printing tokens

A list of tokens is printed by spelling each of them, with separators in front, between and behind.
A separator starts with a blank and goes on with blanks and comments that are closed. Cutting a
printed text into tokens gives the list back.
-/
namespace GeneratedKeys.Token

namespace Layout

/-- Blanks and comments that are closed: those to the end of a line by its newline, the others by
the first mark that closes them. -/
inductive IsFiller : Text → Prop
  | nil : IsFiller []
  | blank {c : Char} {g : Text} : Text.isBlank c = true → IsFiller g → IsFiller (c :: g)
  | line {body g : Text} : '\n' ∉ body → IsFiller g →
      IsFiller ('-' :: '-' :: (body ++ '\n' :: g))
  | block {body g : Text} : ¬ ['*', '/'] <:+: body → IsFiller g →
      IsFiller ('/' :: '*' :: (body ++ '*' :: '/' :: g))

/-- Puts a text in front of the first part. -/
def pushAll (g : Text) (p : Text × Text) : Text × Text :=
  (g ++ p.1, p.2)

theorem split_line {body : Text} (h : '\n' ∉ body) (w : Text) :
    split .line (body ++ '\n' :: w) = pushAll (body ++ ['\n']) (split .blank w) := by
  induction body with
  | nil => rfl
  | cons c body ih =>
    have hc : c ≠ '\n' := Ne.symm (List.ne_of_not_mem_cons h)
    have hbody := ih (List.not_mem_of_not_mem_cons h)
    simp [split, hc, hbody, push, pushAll]

/-- The first character of a body closes nothing. -/
theorem not_close {c : Char} {body : Text} (h : ¬ ['*', '/'] <:+: c :: body) :
    ∀ t, c = '*' → body = '/' :: t → False := by
  intro t hc ht
  exact h ⟨[], t, by rw [hc, ht]; rfl⟩

/-- It closes nothing with the mark behind the body either, which does not start as one ends. -/
theorem not_close_append {c : Char} {body : Text} (h : ¬ ['*', '/'] <:+: c :: body) (w : Text) :
    ∀ t, c = '*' → body ++ '*' :: '/' :: w = '/' :: t → False := by
  intro t hc ht
  cases body with
  | nil => exact absurd (List.cons.inj ht).1 (by decide)
  | cons d body =>
    have hd : d = '/' := (List.cons.inj ht).1
    exact not_close h body hc (by rw [hd])

theorem split_block {body : Text} (h : ¬ ['*', '/'] <:+: body) (w : Text) :
    split .block (body ++ '*' :: '/' :: w) = pushAll (body ++ ['*', '/']) (split .blank w) := by
  induction body with
  | nil => rfl
  | cons c body ih =>
    have hbody := ih fun hi => h (List.infix_cons hi)
    rw [List.cons_append, split, hbody]
    · rfl
    · exact not_close_append h w

/-- Closed layout is cut off together with the layout behind it. -/
theorem IsFiller.split_append {g : Text} (h : IsFiller g) (w : Text) :
    split .blank (g ++ w) = pushAll g (split .blank w) := by
  induction h with
  | nil => rfl
  | @blank c g hc _ ih =>
    have hsign := (of_isBlank hc).2.2
    simp only [List.mem_cons, not_or] at hsign
    rw [List.cons_append, split, if_pos hc, ih]
    · rfl
    · exact fun _ hdash => absurd hdash hsign.2.2.1
    · exact fun _ hslash => absurd hslash hsign.2.2.2.2.1
  | @line body g hbody _ ih =>
    have hline := split_line hbody (g ++ w)
    simp only [List.cons_append, List.append_assoc, split, hline, ih, push, pushAll]
    rfl
  | @block body g hbody _ ih =>
    have hblock := split_block hbody (g ++ w)
    simp only [List.cons_append, List.append_assoc, split, hblock, ih, push, pushAll]
    rfl

/-- Closed layout that starts with a blank. -/
def IsSeparator (t : Text) : Prop :=
  ∃ c g, t = c :: g ∧ Text.isBlank c = true ∧ IsFiller g

theorem IsSeparator.isFiller {t : Text} (h : IsSeparator t) : IsFiller t := by
  obtain ⟨c, g, rfl, hc, hg⟩ := h
  exact .blank hc hg

end Layout

open Text Layout

namespace Cursor

theorem lexemes_filler {g : Text} (h : IsFiller g) (w : Text) (n : Nat) :
    lexemes ⟨g ++ w, n⟩ = lexemes ⟨w, n + g.size⟩ := by
  have hcut := h.split_append w
  rw [← lexemesIn_blank, ← lexemesIn_blank ⟨w, n + g.size⟩]
  simp only [lexemesIn, hcut, pushAll, size_append, Nat.add_assoc]

end Cursor

/-! ### One token in front of a separator -/

namespace IsLexeme
variable {k : Kind} {raw : Text} (h : IsLexeme k raw)
include h

theorem lexemes (n : Nat) : Cursor.lexemes ⟨raw, n⟩ = [⟨k, raw, n⟩] := by
  cases raw with
  | nil => exact h.elim
  | cons c r =>
    obtain ⟨hsplit, htake⟩ := h
    rw [Cursor.lexemes_cons (by rw [hsplit]), hsplit, htake, Cursor.lexemes_nil rfl]
    rfl

theorem endPlace : endPlace raw = .blank := by
  cases raw with
  | nil => exact h.elim
  | cons c r =>
    obtain ⟨hsplit, htake⟩ := h
    rw [endPlace_cons (by rw [hsplit]), htake, endPlace_nil rfl]
    rfl

end IsLexeme

theorem Spells.isOpen {k : Kind} {raw : Text} (h : Spells k raw) : k.isOpen = false := by
  cases h with
  | delimiter hk =>
    have hall : ∀ p ∈ delimiters, p.1.isOpen = false := by decide
    exact hall _ hk
  | _ => rfl

/-- A spelled text in front of a break is one token, and the others are those from the break on. -/
theorem Spells.lexemes_break {k : Kind} {raw : Text} (h : Spells k raw) {x : Char}
    (hx : Breaks x) (b : Text) (n : Nat) :
    Cursor.lexemes ⟨raw ++ x :: b, n⟩ =
      ⟨k, raw, n⟩ :: Cursor.lexemes ⟨x :: b, n + raw.size⟩ := by
  have hone := h.isLexeme.lexemes n
  have hclosed : AllClosed (Cursor.lexemes ⟨raw, n⟩) := by
    rw [hone]
    intro u hu
    rw [List.mem_singleton.1 hu]
    exact h.isOpen
  rw [Cursor.lexemes_append hx b hclosed, hone, h.isLexeme.endPlace, Cursor.lexemesIn_blank]
  rfl

/-- A blank is a break. -/
theorem Spells.lexemes_append {k : Kind} {raw : Text} (h : Spells k raw) {x : Char}
    (hx : isBlank x = true) (b : Text) (n : Nat) :
    Cursor.lexemes ⟨raw ++ x :: b, n⟩ =
      ⟨k, raw, n⟩ :: Cursor.lexemes ⟨x :: b, n + raw.size⟩ :=
  h.lexemes_break (breaks_of_isBlank hx) b n

/-! ### Printed texts -/

/-- The texts that print a list of kinds. -/
inductive Printed : List Kind → Text → Prop
  | nil {sep : Text} : IsSeparator sep → Printed [] sep
  | cons {sep raw t : Text} {k : Kind} {ks : List Kind} : IsSeparator sep → Spells k raw →
      Printed ks t → Printed (k :: ks) (sep ++ (raw ++ t))

theorem Printed.exists_blank {ks : List Kind} {t : Text} (h : Printed ks t) :
    ∃ x b, t = x :: b ∧ isBlank x = true := by
  cases h with
  | nil hsep =>
    obtain ⟨c, g, rfl, hc, -⟩ := hsep
    exact ⟨c, g, rfl, hc⟩
  | cons hsep =>
    obtain ⟨c, g, rfl, hc, -⟩ := hsep
    exact ⟨c, _, rfl, hc⟩

theorem kinds_printed {ks : List Kind} {t : Text} (h : Printed ks t) (n : Nat) :
    (Cursor.lexemes ⟨t, n⟩).map Token.kind = ks := by
  induction h generalizing n with
  | @nil sep hsep =>
    have hnil := Cursor.lexemes_filler hsep.isFiller [] n
    rw [List.append_nil] at hnil
    rw [hnil, Cursor.lexemes_nil rfl]
    rfl
  | cons hsep hspells hrest ih =>
    obtain ⟨x, b, rfl, hx⟩ := hrest.exists_blank
    rw [Cursor.lexemes_filler hsep.isFiller, hspells.lexemes_append hx, List.map_cons, ih]

/-- The spelled texts are all there is to print: every token of any text is spelled, unless it is
malformed. And cutting a printed text into tokens gives back what it was printed from. -/
theorem kinds_tokens_printed :
    (∀ (t : Text) (u : Token), u ∈ tokens t → u.kind ≠ .eof → (∀ m, u.kind ≠ .malformed m) →
      Spells u.kind u.raw) ∧
    ∀ (ks : List Kind) (t : Text), Printed ks t → (tokens t).map Token.kind = ks ++ [.eof] := by
  constructor
  · intro t u hu heof hm
    rcases List.mem_append.1 hu with hu | hu
    · exact spells_of_mem_lexemes hu hm
    · rw [List.mem_singleton.1 hu] at heof
      exact absurd rfl heof
  · intro ks t h
    have hkinds := kinds_printed h 0
    rw [tokens, List.map_append]
    exact congrArg (· ++ [Kind.eof]) hkinds

/-- Signs that open comments, marks and keywords print as themselves inside of other tokens and of
comments, and an exponent may lack its digits. -/
theorem kinds_tokens_printed_nested :
    let ks : List Kind := [.string "--'/*".toList, .operator "<".toList, .operator "<=".toList,
      .number "1.5e-".toList, .quotedIdentifier "\"SET".toList, .identifier "sets$".toList,
      .keyword .SET, .operator "-".toList]
    let t : Text :=
      "\t/*'*/ '--''/*' < <=\n--;/*\n1.5e- \"\"\"SET\" sets$\u00a0sEt - /*--*/".toList
    Printed ks t ∧ (tokens t).map Token.kind = ks ++ [.eof] := by
  intro ks t
  have hspace : IsSeparator [' '] := ⟨' ', [], rfl, by decide, .nil⟩
  have hwide : IsSeparator ['\u00a0'] := ⟨'\u00a0', [], rfl, by decide, .nil⟩
  have hfirst : IsSeparator "\t/*'*/ ".toList :=
    ⟨'\t', _, rfl, by decide, @IsFiller.block ['\x27'] _ (by decide) (.blank (by decide) .nil)⟩
  have hline : IsSeparator "\n--;/*\n".toList :=
    ⟨'\n', _, rfl, by decide, @IsFiller.line [';', '/', '*'] _ (by decide) .nil⟩
  have hlast : IsSeparator " /*--*/".toList :=
    ⟨' ', _, rfl, by decide, @IsFiller.block ['-', '-'] _ (by decide) .nil⟩
  have hnumber : IsNumber "1.5e-".toList :=
    ⟨['1'], ['.', '5'], ['e', '-'], rfl, by decide, by decide,
      .inr ⟨['5'], rfl, by decide, by decide⟩,
      .inr ⟨'e', ['-'], [], rfl, by decide, by decide, by decide⟩⟩
  have hword : IsWord "sets$".toList :=
    ⟨'s', ['e', 't', 's', '$'], rfl, by decide, List.all_eq_true.1 (by decide)⟩
  have hother : ∀ k, ¬ SpellsKeyword k "sets$".toList := by
    intro k
    cases k <;> decide
  have hkeyword : SpellsKeyword .SET "sEt".toList := by decide
  have hprinted : Printed ks t :=
    .cons hfirst (.string "--'/*".toList) <| .cons hspace (.operator (by decide)) <|
    .cons hspace (.operator (by decide)) <| .cons hline (.number hnumber) <|
    .cons hspace (.quotedIdentifier (by decide)) <| .cons hspace (.identifier hword hother) <|
    .cons hwide (.keyword hkeyword) <| .cons hspace (.operator (by decide)) <| .nil hlast
  exact ⟨hprinted, kinds_tokens_printed.2 ks t hprinted⟩

end GeneratedKeys.Token
