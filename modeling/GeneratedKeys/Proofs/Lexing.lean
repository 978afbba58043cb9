import GeneratedKeys.Proofs.Layout
import GeneratedKeys.Token.Lexer

/-!
# Tokens of a text with more text behind it

A break is a character that ends every token before it, unless it stands in a quoted text that is
still open. So the tokens of a text that goes on behind a break are those in front of it and those
from it on, where the layout in front of the break may reach over it.
-/
namespace GeneratedKeys.Token
open Text

/-- A character that goes on with no token but an open quoted text, and with no mark of a comment. -/
structure Breaks (x : Char) : Prop where
  word : isWordPart x = false
  digit : x.isDigit = false
  sign : x ∉ ['.', '+', '-', '*', '/', '=', '<', '>', '|', '\x27', '\x22']

theorem breaks_newline : Breaks '\n' := ⟨by decide, by decide, by decide⟩

theorem breaks_space : Breaks ' ' := ⟨by decide, by decide, by decide⟩

theorem breaks_comma : Breaks ',' := ⟨by decide, by decide, by decide⟩

theorem breaks_semicolon : Breaks ';' := ⟨by decide, by decide, by decide⟩

/-- What has been cut off a text, with more text behind the rest. -/
def followed {α : Type} (w : Text) (p : α × Text) : α × Text :=
  (p.1, p.2 ++ w)

section
variable {x : Char}

theorem Breaks.isApart (hx : Breaks x) : Layout.isApart x = true := by
  have h := hx.sign
  simp only [List.mem_cons, not_or] at h
  simp [Layout.isApart, h]

theorem Breaks.ne (hx : Breaks x) {c : Char}
    (hc : c ∈ ['.', '+', '-', '*', '/', '=', '<', '>', '|', '\x27', '\x22']) : x ≠ c := by
  intro he
  exact hx.sign (he ▸ hc)

/-! ### One lexeme -/

theorem read_followed {mark : Char} (hm : x ≠ mark) (b : Text) {t : Text} {p : Text × Text}
    (h : Quoted.read mark t = some p) :
    Quoted.read mark (t ++ x :: b) = some (followed (x :: b) p) := by
  fun_induction Quoted.read mark t generalizing p with
  | case1 => cases h
  | case2 =>
    cases h
    simp [Quoted.read, hm, followed]
  | case3 => cases h
  | case4 t ih =>
    obtain ⟨q, hq, rfl⟩ := Option.map_eq_some_iff.1 h
    simp [Quoted.read, ih hq, followed]
  | case5 d t hd =>
    cases h
    simp [Quoted.read, hd, followed]
  | case6 c d t hc ih =>
    obtain ⟨q, hq, rfl⟩ := Option.map_eq_some_iff.1 h
    have hr := ih hq
    rw [List.cons_append] at hr
    simp [Quoted.read, hc, hr, followed]

/-- A text that has been quoted is read back, unless a mark follows the closing one. -/
theorem read_double {mark : Char} (content : Text) {rest : Text} (hr : rest.head? ≠ some mark) :
    Quoted.read mark (Quoted.double mark content ++ mark :: rest) = some (content, rest) := by
  induction content with
  | nil =>
    cases rest with
    | nil => simp [Quoted.double, Quoted.read]
    | cons d t =>
      have hd : d ≠ mark := by simpa using hr
      simp [Quoted.double, Quoted.read, hd]
  | cons c content ih =>
    by_cases hc : c = mark
    · simp [Quoted.double, hc, Quoted.read, ih]
    · obtain ⟨d, t, ht⟩ : ∃ d t, Quoted.double mark content ++ mark :: rest = d :: t :=
        List.exists_cons_of_ne_nil (by simp)
      rw [ht] at ih
      simp [Quoted.double, hc, ht, Quoted.read, ih]

theorem double_of_not_mem {mark : Char} {content : Text} (h : mark ∉ content) :
    Quoted.double mark content = content := by
  induction content with
  | nil => rfl
  | cons c content ih =>
    simp only [List.mem_cons, not_or] at h
    rw [Quoted.double, if_neg (Ne.symm h.1), ih h.2]

theorem double_ne_nil {mark : Char} {content : Text} (h : content ≠ []) :
    Quoted.double mark content ≠ [] := by
  obtain ⟨c, rest, rfl⟩ := List.exists_cons_of_ne_nil h
  rw [Quoted.double]
  split <;> exact List.cons_ne_nil _ _

theorem takeWhile_followed {p : Char → Bool} (hp : p x = false) (b t : Text) :
    ((t ++ x :: b).takeWhile p, (t ++ x :: b).dropWhile p) =
      followed (x :: b) (t.takeWhile p, t.dropWhile p) := by
  induction t with
  | nil => simp [followed, hp]
  | cons c t ih =>
    simp only [followed, Prod.mk.injEq] at ih
    by_cases hc : p c = true <;> simp [followed, hc, ih]

variable (hx : Breaks x) (b : Text)
include hx

theorem splitDigits_followed (t : Text) :
    splitDigits (t ++ x :: b) = followed (x :: b) (splitDigits t) :=
  takeWhile_followed hx.digit b t

theorem splitFraction_followed (t : Text) :
    splitFraction (t ++ x :: b) = followed (x :: b) (splitFraction t) := by
  have hp : x ≠ '.' := hx.ne (by decide)
  rcases t with _ | ⟨c, _ | ⟨d, t⟩⟩
  · cases b <;> simp [splitFraction, followed, hp]
  · by_cases hc : c = '.'
    · simp [splitFraction, followed, hc, hx.digit]
    · simp [splitFraction, followed, hc]
  · by_cases hc : c = '.'
    · by_cases hd : d.isDigit = true <;>
        simp [splitFraction, splitDigits_followed hx, followed, hc, hd]
    · simp [splitFraction, followed, hc]

theorem splitSign_followed (t : Text) :
    splitSign (t ++ x :: b) = followed (x :: b) (splitSign t) := by
  have hp : x ≠ '+' := hx.ne (by decide)
  have hm : x ≠ '-' := hx.ne (by decide)
  cases t with
  | nil => simp [splitSign, followed, hp, hm]
  | cons c t => by_cases hc : c = '+' ∨ c = '-' <;> simp [splitSign, followed, hc]

theorem splitExponent_followed (t : Text) :
    splitExponent (t ++ x :: b) = followed (x :: b) (splitExponent t) := by
  cases t with
  | nil =>
    have hp : ¬ (x = 'e' ∨ x = 'E') := by
      intro hyp
      rcases hyp with rfl | rfl
      · exact absurd hx.word (by decide)
      · exact absurd hx.word (by decide)
    simp [splitExponent, followed, hp]
  | cons c t =>
    by_cases hc : c = 'e' ∨ c = 'E'
    · simp [splitExponent, hc, splitSign_followed hx, splitDigits_followed hx, followed]
    · simp [splitExponent, followed, hc]

theorem takeNumber_followed (t : Text) :
    takeNumber (t ++ x :: b) = followed (x :: b) (takeNumber t) := by
  simp only [takeNumber, splitDigits_followed hx, followed]
  simp only [splitFraction_followed hx, splitExponent_followed hx, followed]

theorem takeOperator_followed {rule : OperatorRule} {c : Char} (hr : operatorRule? c = some rule)
    (t : Text) : takeOperator rule c (t ++ x :: b) = followed (x :: b) (takeOperator rule c t) := by
  have hs : x ∉ rule.seconds := by
    have h := hx.sign
    simp only [List.mem_cons, not_or] at h
    unfold operatorRule? at hr
    split at hr <;> cases hr <;> simp [h]
  cases t with
  | nil => simp [takeOperator, followed, hs]
  | cons d t => by_cases hd : d ∈ rule.seconds <;> simp [takeOperator, followed, hd]

theorem takeWord_followed (c : Char) (t : Text) :
    takeWord c (t ++ x :: b) = followed (x :: b) (takeWord c t) := by
  have h := takeWhile_followed hx.word b t
  simp only [followed, Prod.mk.injEq] at h
  simp [takeWord, followed, h]

end

/-- A quoted text that is never closed. -/
def Kind.isOpen : Kind → Bool
  | .malformed .openString | .malformed .openIdentifier => true
  | _ => false

theorem takeString_followed {x : Char} (hx : Breaks x) (b : Text) {t : Text}
    (h : (takeString t).1.kind.isOpen = false) :
    takeString (t ++ x :: b) = followed (x :: b) (takeString t) := by
  cases hr : Quoted.read '\x27' t with
  | none => simp [takeString, hr, Kind.isOpen] at h
  | some p =>
    have hf := read_followed (hx.ne (c := '\x27') (by decide)) b hr
    simp [takeString, hr, hf, followed]

theorem takeQuotedIdentifier_followed {x : Char} (hx : Breaks x) (b : Text) {t : Text}
    (h : (takeQuotedIdentifier t).1.kind.isOpen = false) :
    takeQuotedIdentifier (t ++ x :: b) = followed (x :: b) (takeQuotedIdentifier t) := by
  cases hr : Quoted.read '\x22' t with
  | none => simp [takeQuotedIdentifier, hr, Kind.isOpen] at h
  | some p =>
    have hf := read_followed (hx.ne (c := '\x22') (by decide)) b hr
    simp [takeQuotedIdentifier, hr, hf, followed]

/-- The lexeme at the front of a text does not change when a break and more text come behind. -/
theorem take_followed {x : Char} (hx : Breaks x) (b : Text) {c : Char} {t : Text}
    (h : (take c t).1.kind.isOpen = false) :
    take c (t ++ x :: b) = followed (x :: b) (take c t) := by
  revert h
  fun_cases take c t with
  | case1 kind hd => simp [take, hd, followed]
  | case2 hd rule hr => simp [take, hd, hr, takeOperator_followed hx b hr]
  | case3 hd hr hc =>
    intro h
    simp only [take, hd, hr, if_pos hc]
    exact takeString_followed hx b h
  | case4 hd hr hs hc =>
    intro h
    simp only [take, hd, hr, if_neg hs, if_pos hc]
    exact takeQuotedIdentifier_followed hx b h
  | case5 hd hr hs hq hc =>
    intro _
    simp only [take, hd, hr, if_neg hs, if_neg hq, if_pos hc]
    exact takeNumber_followed hx b (c :: t)
  | case6 hd hr hs hq hn hc =>
    intro _
    simp only [take, hd, hr, if_neg hs, if_neg hq, if_neg hn, if_pos hc]
    exact takeWord_followed hx b c t
  | case7 hd hr hs hq hn hc =>
    intro _
    simp only [take, hd, hr, if_neg hs, if_neg hq, if_neg hn, if_neg hc]
    rfl

theorem read_append_none {mark x : Char} (hm : x ≠ mark) {t : Text}
    (h : Quoted.read mark t = none) : Quoted.read mark (t ++ [x]) = none := by
  fun_induction Quoted.read mark t with
  | case1 => simp [Quoted.read, hm]
  | case2 => cases h
  | case3 c hc => simp [Quoted.read, hc, hm]
  | case4 t ih => simp [Quoted.read, ih (Option.map_eq_none_iff.1 h)]
  | case5 => cases h
  | case6 c d t hc ih =>
    have hr := ih (Option.map_eq_none_iff.1 h)
    rw [List.cons_append] at hr
    simp [Quoted.read, hc, hr]

theorem isOpen_delimiter {c : Char} {kind : Kind} (h : delimiter? c = some kind) :
    kind.isOpen = false := by
  unfold delimiter? at h
  split at h <;> cases h <;> rfl

theorem isOpen_takeOperator (rule : OperatorRule) (c : Char) (t : Text) :
    (takeOperator rule c t).1.kind.isOpen = false := by
  have hl : (loneOperator rule c).kind.isOpen = false := by
    unfold loneOperator
    cases rule.alone <;> rfl
  fun_cases takeOperator rule c t with
  | case1 => rfl
  | case2 => exact hl
  | case3 => exact hl

theorem isOpen_wordKind (w : Text) : (wordKind w).isOpen = false := by
  unfold wordKind
  split <;> rfl

/-- A quoted text that is never closed takes all that follows, and a break behind it too. -/
theorem take_open {x : Char} (hx : Breaks x) {c : Char} {t : Text}
    (h : (take c t).1.kind.isOpen = true) :
    (take c t).2 = [] ∧ (take c (t ++ [x])).1.kind.isOpen = true := by
  revert h
  fun_cases take c t with
  | case1 kind hd => simp [isOpen_delimiter hd]
  | case2 hd rule hr => simp [isOpen_takeOperator]
  | case3 hd hr hc =>
    simp only [take, hd, hr, if_pos hc]
    cases ht : Quoted.read '\x27' t with
    | some p => simp [takeString, ht, Kind.isOpen]
    | none =>
      have hn := read_append_none (hx.ne (c := '\x27') (by decide)) ht
      simp [takeString, ht, hn, Kind.isOpen]
  | case4 hd hr hs hc =>
    simp only [take, hd, hr, if_neg hs, if_pos hc]
    cases ht : Quoted.read '\x22' t with
    | some p =>
      have hk : (takeQuotedIdentifier t).1.kind.isOpen = false := by
        simp only [takeQuotedIdentifier, ht]
        split <;> rfl
      simp [hk]
    | none =>
      have hn := read_append_none (hx.ne (c := '\x22') (by decide)) ht
      simp [takeQuotedIdentifier, ht, hn, Kind.isOpen]
  | case5 => simp [takeNumber, Kind.isOpen]
  | case6 => simp [takeWord, isOpen_wordKind]
  | case7 => simp [Kind.isOpen]

/-! ### Whole texts -/

theorem take_length_le (c : Char) (t : Text) : (take c t).2.length ≤ t.length := by
  have happ := congrArg List.length (take_append c t)
  have hpos : 0 < (take c t).1.raw.length := List.length_pos_iff.2 (take_raw_ne_nil c t)
  simp only [List.length_append, List.length_cons] at happ
  omega

/-- Whether tokens of a kind differ in their text. -/
def Kind.isSpelled : Kind → Bool
  | .number _ | .string _ | .identifier _ | .quotedIdentifier _ | .keyword _ | .operator _
  | .malformed _ => true
  | _ => false

/-- A token that is always spelled the same is a delimiter. -/
theorem take_delimiter {c : Char} {t : Text} (h : (take c t).1.kind.isSpelled = false) :
    delimiter? c = some (take c t).1.kind ∧ (take c t).1.raw = [c] := by
  revert h
  fun_cases take c t with
  | case1 kind hd => exact fun _ => ⟨hd, rfl⟩
  | case2 hd rule hr =>
    have hl : (loneOperator rule c).kind.isSpelled = true := by
      unfold loneOperator
      cases rule.alone <;> rfl
    fun_cases takeOperator rule c t with
    | case1 => simp [Kind.isSpelled]
    | case2 => simp [hl]
    | case3 => simp [hl]
  | case3 => fun_cases takeString t <;> simp [Kind.isSpelled]
  | case4 =>
    fun_cases takeQuotedIdentifier t with
    | case1 content => cases content.isEmpty <;> simp [Kind.isSpelled]
    | case2 => simp [Kind.isSpelled]
  | case5 => simp [takeNumber, Kind.isSpelled]
  | case6 =>
    simp only [takeWord, wordKind]
    split <;> simp [Kind.isSpelled]
  | case7 => simp [Kind.isSpelled]

theorem take_kind_ne_eof (c : Char) (t : Text) : (take c t).1.kind ≠ .eof := by
  intro h
  have hd := (take_delimiter (by rw [h]; rfl)).1
  rw [h] at hd
  unfold delimiter? at hd
  split at hd <;> cases hd

theorem take_semicolon {c : Char} {t : Text} (h : (take c t).1.kind = .semicolon) :
    (take c t).1.raw = [';'] := by
  obtain ⟨hd, hr⟩ := take_delimiter (by rw [h]; rfl)
  rw [h] at hd
  unfold delimiter? at hd
  split at hd <;> cases hd
  exact hr

/-- Where in the layout a text ends, behind its last token. -/
def endPlace (a : Text) : Layout.Place :=
  match _h : (Layout.split .blank a).2 with
  | [] => Layout.final .blank a
  | d :: t => endPlace (take d t).2
termination_by a.length
decreasing_by
  have hcut := Layout.split_length_le .blank a
  have htake := take_length_le d t
  rw [_h, List.length_cons] at hcut
  omega

variable {a : Text} {n : Nat} {d : Char} {t : Text}

theorem endPlace_nil (h : (Layout.split .blank a).2 = []) :
    endPlace a = Layout.final .blank a := by
  rw [endPlace]
  split
  · rfl
  · simp_all

theorem endPlace_cons (h : (Layout.split .blank a).2 = d :: t) :
    endPlace a = endPlace (take d t).2 := by
  rw [endPlace]
  split
  · simp_all
  · simp_all

namespace Cursor

theorem lexemes_nil (h : (Layout.split .blank a).2 = []) : lexemes ⟨a, n⟩ = [] := by
  rw [lexemes]
  simp [next, h]

theorem lexemes_cons (h : (Layout.split .blank a).2 = d :: t) :
    lexemes ⟨a, n⟩ =
      ⟨(take d t).1.kind, (take d t).1.raw, n + (Layout.split .blank a).1.size⟩ ::
        lexemes ⟨(take d t).2, n + (Layout.split .blank a).1.size + (take d t).1.raw.size⟩ := by
  rw [lexemes]
  simp [next, h, take_kind_ne_eof]

/-- The tokens from a place on, when layout in front of it may still go on. -/
def lexemesIn (p : Layout.Place) (c : Cursor) : List Token :=
  lexemes ⟨(Layout.split p c.rest).2, c.offset + (Layout.split p c.rest).1.size⟩

theorem lexemesIn_blank (c : Cursor) : lexemesIn .blank c = lexemes c := by
  obtain ⟨a, n⟩ := c
  have hr := Layout.split_rest .blank a
  cases h : (Layout.split .blank a).2 with
  | nil => rw [lexemesIn, h, lexemes_nil h, lexemes_nil rfl]
  | cons d t =>
    rw [h] at hr
    rw [lexemesIn, h, lexemes_cons h, lexemes_cons (by rw [hr]), hr]
    simp

end Cursor

/-- No quoted text among tokens is left open. -/
def AllClosed (ts : List Token) : Prop :=
  ∀ t ∈ ts, t.kind.isOpen = false

theorem size_eq_of_split (h : (Layout.split .blank a).2 = d :: t) :
    a.size = (Layout.split .blank a).1.size + ((take d t).1.raw.size + (take d t).2.size) := by
  rw [← size_append, take_append, ← h, ← size_append, Layout.split_append]

namespace Cursor
variable {x : Char}

/-- The tokens of a text that goes on behind a break. -/
theorem lexemes_append (hx : Breaks x) (b : Text) (ha : AllClosed (lexemes ⟨a, n⟩)) :
    lexemes ⟨a ++ x :: b, n⟩ =
      lexemes ⟨a, n⟩ ++ lexemesIn (endPlace a) ⟨x :: b, n + a.size⟩ := by
  induction a using endPlace.induct generalizing n with
  | case1 a h =>
    rw [lexemes_nil h, endPlace_nil h, List.nil_append, ← lexemesIn_blank, lexemesIn,
      Layout.split_append_of_nil hx.isApart h]
    simp [lexemesIn, Nat.add_assoc]
  | case2 a d t h ih =>
    rw [lexemes_cons h] at ha ⊢
    have hd : (take d t).1.kind.isOpen = false := ha _ List.mem_cons_self
    have hrest := ih fun u hu => ha u (List.mem_cons_of_mem _ hu)
    have hs := Layout.split_append_of_cons hx.isApart h b
    rw [lexemes_cons (by rw [hs]), hs, take_followed hx b hd, endPlace_cons h]
    simp only [followed, List.cons_append, hrest]
    simp only [size_eq_of_split h, Nat.add_assoc]

/-- A break behind a text closes none of its quoted texts. -/
theorem allClosed_of_append (hx : Breaks x) (ha : AllClosed (lexemes ⟨a ++ [x], n⟩)) :
    AllClosed (lexemes ⟨a, n⟩) := by
  induction a using endPlace.induct generalizing n with
  | case1 a h =>
    rw [lexemes_nil h]
    intro u hu
    cases hu
  | case2 a d t h ih =>
    have hs := Layout.split_append_of_cons hx.isApart h []
    rw [lexemes_cons (by rw [hs]), hs] at ha
    have hd : (take d t).1.kind.isOpen = false := by
      apply Bool.eq_false_iff.2
      intro ho
      have hc := ha _ List.mem_cons_self
      rw [(take_open hx ho).2] at hc
      cases hc
    rw [take_followed hx [] hd] at ha
    rw [lexemes_cons h]
    intro u hu
    rcases List.mem_cons.1 hu with rfl | hu
    · exact hd
    · exact ih (fun v hv => ha v (List.mem_cons_of_mem _ hv)) u hu

/-- Every token is taken off the text at its place. -/
theorem exists_take_of_mem_lexemes {u : Token} (hu : u ∈ lexemes ⟨a, n⟩) :
    ∃ (before : Text) (c : Char) (rest : Text), a = before ++ c :: rest ∧
      u = ⟨(take c rest).1.kind, (take c rest).1.raw, n + before.size⟩ := by
  induction a using endPlace.induct generalizing n with
  | case1 a h =>
    rw [lexemes_nil h] at hu
    cases hu
  | case2 a d t h ih =>
    have hcut : a = (Layout.split .blank a).1 ++ d :: t := by
      rw [← h, Layout.split_append]
    rw [lexemes_cons h] at hu
    rcases List.mem_cons.1 hu with rfl | hu
    · exact ⟨_, d, t, hcut, rfl⟩
    · obtain ⟨before, c, rest, hr, rfl⟩ := ih hu
      refine ⟨(Layout.split .blank a).1 ++ ((take d t).1.raw ++ before), c, rest, ?_, ?_⟩
      · rw [← take_append d t, hr] at hcut
        simpa using hcut
      · simp only [size_append, Nat.add_assoc]

theorem stop_le_of_mem_lexemes {u : Token} (hu : u ∈ lexemes ⟨a, n⟩) : u.stop ≤ n + a.size := by
  obtain ⟨before, c, rest, rfl, rfl⟩ := exists_take_of_mem_lexemes hu
  rw [← take_append c rest]
  simp only [stop, size_append]
  omega

/-- The offset at which reading starts only moves the tokens. -/
theorem kinds_lexemes (a : Text) (n m : Nat) :
    (lexemes ⟨a, n⟩).map Token.kind = (lexemes ⟨a, m⟩).map Token.kind := by
  induction a using endPlace.induct generalizing n m with
  | case1 a h => rw [lexemes_nil h, lexemes_nil h]
  | case2 a d t h ih =>
    rw [lexemes_cons h, lexemes_cons h, List.map_cons, List.map_cons, ih]

end Cursor

end GeneratedKeys.Token
