import GeneratedKeys.Proofs.Folding

/-!
# Tokens in upper case

The characters at which a text is cut into tokens are no letters, and what a letter makes of a token
it makes in either case: it is a part of a word, it spells a keyword, or it opens an exponent. So
the tokens of a text in upper case are those of the text, in upper case.
-/
namespace GeneratedKeys

namespace Text

/-! ### Characters -/

theorem asciiUpper_cons (c : Char) (t : Text) : asciiUpper (c :: t) = c.toUpper :: asciiUpper t :=
  List.map_cons

theorem asciiUpper_append (s t : Text) : asciiUpper (s ++ t) = asciiUpper s ++ asciiUpper t :=
  List.map_append

/-- What does not tell the cases of an ASCII letter apart does not tell a character from its upper
case. -/
theorem toUpper_congr {α : Type} {p : Char → α}
    (hall : ∀ n : Fin 0x80, p (Char.ofNat n).toUpper = p (Char.ofNat n)) (c : Char) :
    p c.toUpper = p c := by
  by_cases hc : c.toNat < 0x80
  · exact of_ascii (p := fun c => p c.toUpper = p c) hall hc
  · rw [Char.toUpper_eq_of_not_isLower (Bool.eq_false_iff.1 (not_isLower_of_le hc))]

/-- A character that is no letter is the upper case of itself only. -/
theorem toUpper_eq_iff {x : Char} (hx : x.isAlpha = false) (c : Char) : c.toUpper = x ↔ c = x := by
  constructor
  · rintro rfl
    have hlower : c.isLower = false := by
      rw [Char.isAlpha_toUpper_eq_isAlpha, Char.isAlpha, Bool.or_eq_false_iff] at hx
      exact hx.2
    exact (Char.toUpper_eq_of_not_isLower (Bool.eq_false_iff.1 hlower)).symm
  · rintro rfl
    rw [Char.isAlpha, Bool.or_eq_false_iff] at hx
    exact Char.toUpper_eq_of_not_isLower (Bool.eq_false_iff.1 hx.2)

theorem utf8Size_toUpper (c : Char) : c.toUpper.utf8Size = c.utf8Size :=
  toUpper_congr (by decide +kernel) c

theorem isBlank_toUpper (c : Char) : isBlank c.toUpper = isBlank c :=
  toUpper_congr (by decide +kernel) c

theorem size_asciiUpper (t : Text) : (asciiUpper t).size = t.size := by
  induction t with
  | nil => rfl
  | cons c t ih => rw [asciiUpper_cons, size_cons, size_cons, utf8Size_toUpper, ih]

/-- Both parts of a text that has been cut, in upper case. -/
def cutUpper (p : Text × Text) : Text × Text :=
  (asciiUpper p.1, asciiUpper p.2)

/-- A text is cut at the same place in either case by what does not tell the cases apart. -/
theorem takeWhile_asciiUpper {p : Char → Bool} (hp : ∀ c, p c.toUpper = p c) (t : Text) :
    ((asciiUpper t).takeWhile p, (asciiUpper t).dropWhile p) =
      cutUpper (t.takeWhile p, t.dropWhile p) := by
  have hcomp : p ∘ Char.toUpper = p := funext hp
  simp only [cutUpper, asciiUpper, List.takeWhile_map, List.dropWhile_map, hcomp]

/-! ### Quoted texts -/

namespace Quoted
variable {mark : Char} (hm : mark.isAlpha = false)
include hm

theorem double_asciiUpper (content : Text) :
    double mark (asciiUpper content) = asciiUpper (double mark content) := by
  have hmark : mark.toUpper = mark := (toUpper_eq_iff hm mark).2 rfl
  induction content with
  | nil => rfl
  | cons c content ih =>
    by_cases hc : c = mark
    · simp only [asciiUpper_cons, double, hc, hmark, if_true, ih]
    · have hne : c.toUpper ≠ mark := mt (toUpper_eq_iff hm c).1 hc
      simp only [asciiUpper_cons, double, if_neg hc, if_neg hne, ih]

theorem write_asciiUpper (content : Text) :
    write mark (asciiUpper content) = asciiUpper (write mark content) := by
  have hmark : mark.toUpper = mark := (toUpper_eq_iff hm mark).2 rfl
  rw [write, double_asciiUpper hm, write, asciiUpper_cons, asciiUpper_append, asciiUpper_cons,
    hmark]
  rfl

theorem read_asciiUpper (t : Text) :
    read mark (asciiUpper t) = (read mark t).map cutUpper := by
  fun_induction read mark t with
  | case1 => rfl
  | case2 => simp [asciiUpper, read, toUpper_eq_iff hm, cutUpper]
  | case3 c hc => simp [asciiUpper, read, toUpper_eq_iff hm, hc]
  | case4 t ih =>
    have hmark : mark.toUpper = mark := (toUpper_eq_iff hm mark).2 rfl
    simp only [asciiUpper_cons, hmark, read, if_true, ih, Option.map_map]
    congr 1
    funext p
    simp only [Function.comp, cutUpper, asciiUpper_cons, hmark]
  | case5 d t hd =>
    have hmark : mark.toUpper = mark := (toUpper_eq_iff hm mark).2 rfl
    have hne : d.toUpper ≠ mark := mt (toUpper_eq_iff hm d).1 hd
    simp only [asciiUpper_cons, hmark, read, if_true, if_neg hne]
    rfl
  | case6 c d t hc ih =>
    have hne : c.toUpper ≠ mark := mt (toUpper_eq_iff hm c).1 hc
    rw [asciiUpper_cons] at ih
    simp only [asciiUpper_cons, read, if_neg hne, ih, Option.map_map]
    rfl

end Quoted
end Text

namespace Token
open Text

/-! ### Layout -/

namespace Layout

/-- A pair of signs does not come about by bringing letters into upper case. -/
theorem not_pair_asciiUpper {c d e : Char} {t : Text} (hd : d.isAlpha = false)
    (he : e.isAlpha = false) (h : ∀ u, c = d → t = e :: u → False) :
    ∀ u, c.toUpper = d → asciiUpper t = e :: u → False := by
  intro u hc ht
  cases t with
  | nil => cases ht
  | cons x t =>
    have hx : x.toUpper = e := (List.cons.inj ht).1
    rw [toUpper_eq_iff he] at hx
    exact h t ((toUpper_eq_iff hd c).1 hc) (by rw [hx])

theorem split_asciiUpper (p : Place) (t : Text) :
    split p (asciiUpper t) = cutUpper (split p t) := by
  -- A pair that opens or closes a comment is its own upper case; where one letter is cut off at a
  -- time, such a pair has to be excluded of the upper case too.
  have hdash : ('-').isAlpha = false := by decide
  have hslash : ('/').isAlpha = false := by decide
  have hstar : ('*').isAlpha = false := by decide
  fun_induction split p t with
  | case1 p => cases p <;> rfl
  | case2 t ih =>
    change split .blank ('-' :: '-' :: asciiUpper t) = _
    rw [split, ih]
    rfl
  | case3 t ih =>
    change split .blank ('/' :: '*' :: asciiUpper t) = _
    rw [split, ih]
    rfl
  | case4 c t hline hblock hc ih =>
    rw [asciiUpper_cons, split, isBlank_toUpper, if_pos hc, ih]
    · rfl
    · exact not_pair_asciiUpper hdash hdash hline
    · exact not_pair_asciiUpper hslash hstar hblock
  | case5 c t hline hblock hc =>
    rw [asciiUpper_cons, split, isBlank_toUpper, if_neg hc]
    · rfl
    · exact not_pair_asciiUpper hdash hdash hline
    · exact not_pair_asciiUpper hslash hstar hblock
  | case6 c t ih =>
    have hbreak : c.toUpper = '\n' ↔ c = '\n' := toUpper_eq_iff (by decide) c
    simp only [asciiUpper_cons, split, hbreak, ih]
    rfl
  | case7 t ih =>
    change split .block ('*' :: '/' :: asciiUpper t) = _
    rw [split, ih]
    rfl
  | case8 c t hclose ih =>
    rw [asciiUpper_cons, split, ih]
    · rfl
    · exact not_pair_asciiUpper hstar hslash hclose

end Layout

/-! ### One lexeme -/

/-- A kind with the letters of its text in upper case. -/
def Kind.inUpper : Kind → Kind
  | .number t => .number (asciiUpper t)
  | .string t => .string (asciiUpper t)
  | .identifier t => .identifier (asciiUpper t)
  | .quotedIdentifier t => .quotedIdentifier (asciiUpper t)
  | k => k

def Lexeme.inUpper (x : Lexeme) : Lexeme :=
  ⟨x.kind.inUpper, asciiUpper x.raw⟩

/-- What has been taken off a text, and the rest of it, in upper case. -/
def takenUpper (p : Lexeme × Text) : Lexeme × Text :=
  (p.1.inUpper, asciiUpper p.2)

theorem isDigit_toUpper (c : Char) : c.toUpper.isDigit = c.isDigit :=
  toUpper_congr (p := Char.isDigit) (by decide +kernel) c

theorem isWordPart_toUpper (c : Char) : isWordPart c.toUpper = isWordPart c :=
  toUpper_congr (by decide +kernel) c

theorem isWordStart_toUpper (c : Char) : isWordStart c.toUpper = isWordStart c :=
  toUpper_congr (by decide +kernel) c

theorem delimiter?_toUpper (c : Char) : delimiter? c.toUpper = delimiter? c :=
  toUpper_congr (by decide +kernel) c

theorem operatorRule?_toUpper (c : Char) : operatorRule? c.toUpper = operatorRule? c :=
  toUpper_congr (by decide +kernel) c

theorem splitDigits_asciiUpper (t : Text) :
    splitDigits (asciiUpper t) = cutUpper (splitDigits t) :=
  takeWhile_asciiUpper isDigit_toUpper t

theorem splitFraction_asciiUpper (t : Text) :
    splitFraction (asciiUpper t) = cutUpper (splitFraction t) := by
  fun_cases splitFraction t with
  | case1 d t hd =>
    change splitFraction ('.' :: d.toUpper :: asciiUpper t) = _
    rw [splitFraction, isDigit_toUpper, if_pos hd, splitDigits_asciiUpper]
    rfl
  | case2 d t hd =>
    change splitFraction ('.' :: d.toUpper :: asciiUpper t) = _
    rw [splitFraction, isDigit_toUpper, if_neg hd]
    rfl
  | case3 t hpoint =>
    rw [splitFraction]
    · rfl
    · intro d u hu
      rcases t with _ | ⟨c, _ | ⟨e, t⟩⟩
      · cases hu
      · cases (List.cons.inj hu).2
      · have hc : c.toUpper = '.' := (List.cons.inj hu).1
        rw [toUpper_eq_iff (by decide)] at hc
        exact hpoint e t (by rw [hc])

theorem splitSign_asciiUpper (t : Text) : splitSign (asciiUpper t) = cutUpper (splitSign t) := by
  cases t with
  | nil => rfl
  | cons c t =>
    have hsign : c.toUpper = '+' ∨ c.toUpper = '-' ↔ c = '+' ∨ c = '-' :=
      or_congr (toUpper_eq_iff (by decide) c) (toUpper_eq_iff (by decide) c)
    rw [asciiUpper_cons, splitSign, splitSign]
    simp only [hsign]
    split
    · rfl
    · rfl

theorem isExponentLetter_toUpper (c : Char) :
    c.toUpper = 'e' ∨ c.toUpper = 'E' ↔ c = 'e' ∨ c = 'E' :=
  iff_of_eq (toUpper_congr (p := fun c => c = 'e' ∨ c = 'E') (by decide +kernel) c)

theorem splitExponent_asciiUpper (t : Text) :
    splitExponent (asciiUpper t) = cutUpper (splitExponent t) := by
  cases t with
  | nil => rfl
  | cons c t =>
    rw [asciiUpper_cons, splitExponent, splitExponent]
    simp only [isExponentLetter_toUpper, splitSign_asciiUpper]
    split
    · simp only [cutUpper, splitDigits_asciiUpper, asciiUpper_cons, asciiUpper_append]
    · rfl

theorem takeNumber_asciiUpper (t : Text) :
    takeNumber (asciiUpper t) = takenUpper (takeNumber t) := by
  simp only [takeNumber, splitDigits_asciiUpper, splitFraction_asciiUpper,
    splitExponent_asciiUpper, cutUpper, takenUpper, Lexeme.inUpper, Kind.inUpper, asciiUpper_append]

theorem ofText?_asciiUpper (t : Text) : Keyword.ofText? (asciiUpper t) = Keyword.ofText? t := by
  have hcomp : Char.toUpper ∘ Char.toUpper = Char.toUpper :=
    funext Char.toUpper_toUpper_eq_toUpper
  rw [Keyword.ofText?, Keyword.ofText?, asciiUpper, List.map_map, hcomp]

theorem wordKind_asciiUpper (t : Text) : wordKind (asciiUpper t) = (wordKind t).inUpper := by
  rw [wordKind, wordKind, ofText?_asciiUpper]
  cases Keyword.ofText? t <;> rfl

theorem takeWord_asciiUpper (c : Char) (t : Text) :
    takeWord c.toUpper (asciiUpper t) = takenUpper (takeWord c t) := by
  obtain ⟨htake, hdrop⟩ := Prod.mk.inj (takeWhile_asciiUpper isWordPart_toUpper t)
  simp only [takeWord, htake, hdrop, takenUpper, Lexeme.inUpper, ← asciiUpper_cons,
    wordKind_asciiUpper]

/-- The signs of operators are no letters. -/
theorem not_isAlpha_of_operatorRule {c : Char} {rule : OperatorRule}
    (h : operatorRule? c = some rule) :
    c.isAlpha = false ∧ ∀ d ∈ rule.seconds, d.isAlpha = false := by
  unfold operatorRule? at h
  split at h <;> cases h <;> simp

theorem loneOperator_toUpper {c : Char} (hc : c.toUpper = c) (rule : OperatorRule) :
    loneOperator rule c.toUpper = (loneOperator rule c).inUpper := by
  simp only [loneOperator, Lexeme.inUpper, asciiUpper_cons, hc]
  cases rule.alone <;> rfl

theorem takeOperator_asciiUpper {c : Char} {rule : OperatorRule}
    (h : operatorRule? c = some rule) (t : Text) :
    takeOperator rule c.toUpper (asciiUpper t) = takenUpper (takeOperator rule c t) := by
  obtain ⟨hfirst, hseconds⟩ := not_isAlpha_of_operatorRule h
  have hc : c.toUpper = c := (toUpper_eq_iff hfirst c).2 rfl
  fun_cases takeOperator rule c t with
  | case1 d t hd =>
    have hupper : d.toUpper = d := (toUpper_eq_iff (hseconds d hd) d).2 rfl
    rw [asciiUpper_cons, takeOperator, hupper, if_pos hd, hc]
    simp only [takenUpper, Lexeme.inUpper, Kind.inUpper, asciiUpper, List.map_cons, List.map_nil,
      hc, hupper]
  | case2 d t hd =>
    have hupper : d.toUpper ∉ rule.seconds := by
      intro hmem
      rw [← (toUpper_eq_iff (hseconds _ hmem) d).1 rfl] at hmem
      exact hd hmem
    rw [asciiUpper_cons, takeOperator, if_neg hupper, loneOperator_toUpper hc]
    rfl
  | case3 =>
    change (loneOperator rule c.toUpper, []) = _
    rw [loneOperator_toUpper hc]
    rfl

theorem takeString_asciiUpper (t : Text) :
    takeString (asciiUpper t) = takenUpper (takeString t) := by
  have hm : ('\x27').isAlpha = false := by decide
  rw [takeString, takeString, Quoted.read_asciiUpper hm]
  cases Quoted.read '\x27' t with
  | none => rfl
  | some p =>
    simp only [Option.map_some, cutUpper, takenUpper, Lexeme.inUpper, Kind.inUpper,
      Quoted.write_asciiUpper hm]

theorem takeQuotedIdentifier_asciiUpper (t : Text) :
    takeQuotedIdentifier (asciiUpper t) = takenUpper (takeQuotedIdentifier t) := by
  have hm : ('\x22').isAlpha = false := by decide
  rw [takeQuotedIdentifier, takeQuotedIdentifier, Quoted.read_asciiUpper hm]
  cases Quoted.read '\x22' t with
  | none => rfl
  | some p =>
    obtain ⟨content, rest⟩ := p
    simp only [Option.map_some, cutUpper, takenUpper, Lexeme.inUpper, Quoted.write_asciiUpper hm]
    cases content <;> rfl

theorem inUpper_delimiter {c : Char} {k : Kind} (h : delimiter? c = some k) :
    c.toUpper = c ∧ k.inUpper = k := by
  unfold delimiter? at h
  split at h <;> cases h <;> decide

/-- What is taken off a text in upper case is what is taken off the text, in upper case. -/
theorem take_asciiUpper (c : Char) (t : Text) :
    take c.toUpper (asciiUpper t) = takenUpper (take c t) := by
  have hquote : c.toUpper = '\x27' ↔ c = '\x27' := toUpper_eq_iff (by decide) c
  have hdouble : c.toUpper = '\x22' ↔ c = '\x22' := toUpper_eq_iff (by decide) c
  fun_cases take c t with
  | case1 k hk =>
    obtain ⟨hc, hkind⟩ := inUpper_delimiter hk
    simp only [take, delimiter?_toUpper, hk, takenUpper, Lexeme.inUpper, hkind, asciiUpper,
      List.map_cons, List.map_nil]
  | case2 hk rule hr =>
    simp only [take, delimiter?_toUpper, operatorRule?_toUpper, hk, hr]
    exact takeOperator_asciiUpper hr t
  | case3 hk hr hc =>
    simp only [take, delimiter?_toUpper, operatorRule?_toUpper, hk, hr, hquote, if_pos hc]
    exact takeString_asciiUpper t
  | case4 hk hr hs hc =>
    simp only [take, delimiter?_toUpper, operatorRule?_toUpper, hk, hr, hquote, if_neg hs, hdouble,
      if_pos hc]
    exact takeQuotedIdentifier_asciiUpper t
  | case5 hk hr hs hq hc =>
    simp only [take, delimiter?_toUpper, operatorRule?_toUpper, hk, hr, hquote, if_neg hs, hdouble,
      if_neg hq, isDigit_toUpper, if_pos hc]
    exact takeNumber_asciiUpper (c :: t)
  | case6 hk hr hs hq hn hc =>
    simp only [take, delimiter?_toUpper, operatorRule?_toUpper, hk, hr, hquote, if_neg hs, hdouble,
      if_neg hq, isDigit_toUpper, if_neg hn, isWordStart_toUpper, if_pos hc]
    exact takeWord_asciiUpper c t
  | case7 hk hr hs hq hn hc =>
    have halpha : c.isAlpha = false := Bool.eq_false_iff.2 (mt isWordStart_of_isAlpha hc)
    have hupper : c.toUpper = c := (toUpper_eq_iff halpha c).2 rfl
    simp only [take, delimiter?_toUpper, operatorRule?_toUpper, hk, hr, hquote, if_neg hs, hdouble,
      if_neg hq, isDigit_toUpper, if_neg hn, isWordStart_toUpper, if_neg hc]
    simp only [takenUpper, Lexeme.inUpper, Kind.inUpper, asciiUpper, List.map_cons, List.map_nil,
      hupper]

/-! ### Whole texts -/

def inUpper (t : Token) : Token :=
  ⟨t.kind.inUpper, asciiUpper t.raw, t.start⟩

/-- The tokens of a text in upper case are those of the text, in upper case and at their places. -/
theorem Cursor.lexemes_asciiUpper (a : Text) (n : Nat) :
    lexemes ⟨asciiUpper a, n⟩ = (lexemes ⟨a, n⟩).map inUpper := by
  induction a using endPlace.induct generalizing n with
  | case1 a h =>
    have hupper : (Layout.split .blank (asciiUpper a)).2 = [] := by
      rw [Layout.split_asciiUpper, cutUpper, h]
      rfl
    rw [lexemes_nil h, lexemes_nil hupper, List.map_nil]
  | case2 a d t h ih =>
    have hupper : (Layout.split .blank (asciiUpper a)).2 = d.toUpper :: asciiUpper t := by
      rw [Layout.split_asciiUpper, cutUpper, h, asciiUpper_cons]
    rw [lexemes_cons h, lexemes_cons hupper, List.map_cons, Layout.split_asciiUpper,
      take_asciiUpper]
    simp only [takenUpper, cutUpper, Lexeme.inUpper, size_asciiUpper, ih]
    rfl

theorem lexemes_asciiUpper (a : Text) : lexemes (asciiUpper a) = (lexemes a).map inUpper :=
  Cursor.lexemes_asciiUpper a 0

end Token
end GeneratedKeys
