import GeneratedKeys.Json.Piece
import GeneratedKeys.Json.Writer
import Mathlib.Data.List.Basic
import Mathlib.Data.List.TakeWhile

/-!
# The pieces that a text is cut into

A document's text is cut into pieces, one after the other, with any space around them; the fuel of
the reading never runs out. A string is read back from its escapes and a whole number from its
digits, whatever follows them, if it does not go on with the number.
-/
namespace GeneratedKeys

namespace Json.Piece
open Text

/-! ### Cutting -/

section
variable {t rest : Text}

theorem codePoints?_length_le {ns : List Nat} (h : codePoints? t = some (ns, rest)) :
    rest.length ≤ t.length := by
  fun_induction codePoints? t generalizing ns with
  | case1 => cases h
  | case2 t =>
    cases h
    exact Nat.le_succ _
  | case3 a b c d t n hn ih =>
    obtain ⟨p, hp, he⟩ := Option.map_eq_some_iff.1 h
    cases he
    have hle := ih hp
    simp only [List.length_cons]
    omega
  | case4 => cases h
  | case5 e t hu c hc ih =>
    obtain ⟨p, hp, he⟩ := Option.map_eq_some_iff.1 h
    cases he
    have hle := ih hp
    simp only [List.length_cons]
    omega
  | case6 => cases h
  | case7 => cases h
  | case8 c t hquote hu he hlow ih =>
    obtain ⟨p, hp, he⟩ := Option.map_eq_some_iff.1 h
    cases he
    have hle := ih hp
    simp only [List.length_cons]
    omega

theorem digits?_length_lt {digits : Text} (h : digits? t = some (digits, rest)) :
    rest.length < t.length := by
  rw [digits?] at h
  split at h
  · cases h
  · next hne =>
    cases h
    have hcut := congrArg List.length (List.takeWhile_append_dropWhile (p := Char.isDigit) (l := t))
    have hpos : 0 < (t.takeWhile Char.isDigit).length := by
      simpa [List.length_pos_iff] using hne
    rw [List.length_append] at hcut
    omega

theorem whole?_length_lt {digits : Text} (h : whole? t = some (digits, rest)) :
    rest.length < t.length := by
  unfold whole? at h
  split at h
  · split at h
    · cases h
    · cases h
      exact Nat.lt_succ_self _
  · exact digits?_length_lt h

theorem fraction?_length_le {digits : Option Text} (h : fraction? t = some (digits, rest)) :
    rest.length ≤ t.length := by
  unfold fraction? at h
  split at h
  · obtain ⟨p, hp, he⟩ := Option.map_eq_some_iff.1 h
    cases he
    have hlt := digits?_length_lt hp
    simp only [List.length_cons]
    omega
  · cases h
    exact Nat.le_refl _

theorem exponent?_length_le {exponent : Option (Bool × Text)}
    (h : exponent? t = some (exponent, rest)) : rest.length ≤ t.length := by
  have hdigits : ∀ {u : Text} {sign : Bool},
      ((digits? u).map fun p => (some (sign, p.1), p.2)) = some (exponent, rest) →
      rest.length < u.length := by
    intro u sign hu
    obtain ⟨p, hp, he⟩ := Option.map_eq_some_iff.1 hu
    cases he
    exact digits?_length_lt hp
  unfold exponent? at h
  split at h
  · next c u =>
    split at h
    · split at h
      · have hlt := hdigits h
        simp only [List.length_cons]
        omega
      · have hlt := hdigits h
        simp only [List.length_cons]
        omega
      · have hlt := hdigits h
        simp only [List.length_cons]
        omega
    · cases h
      exact Nat.le_refl _
  · cases h
    exact Nat.le_refl _

theorem unsigned?_length_lt {negative : Bool} {n : Number}
    (h : unsigned? negative t = some (n, rest)) : rest.length < t.length := by
  obtain ⟨⟨whole, u⟩, hwhole, h⟩ := Option.bind_eq_some_iff.1 h
  obtain ⟨⟨fraction, v⟩, hfraction, h⟩ := Option.bind_eq_some_iff.1 h
  obtain ⟨⟨exponent, w⟩, hexponent, h⟩ := Option.bind_eq_some_iff.1 h
  cases h
  have hlt := whole?_length_lt hwhole
  have hle := fraction?_length_le hfraction
  have hle' := exponent?_length_le hexponent
  omega

theorem number?_length_lt {n : Number} (h : number? t = some (n, rest)) :
    rest.length < t.length := by
  unfold number? at h
  split at h
  · have hlt := unsigned?_length_lt h
    simp only [List.length_cons]
    omega
  · exact unsigned?_length_lt h

theorem word?_length_le {p q : Piece} {letters : String} (h : word? p letters t = some (q, rest)) :
    rest.length ≤ t.length := by
  obtain ⟨u, hu, he⟩ := Option.map_eq_some_iff.1 h
  cases he
  rw [← List.isPrefixOf?_eq_some_iff_append_eq.1 hu, List.length_append]
  omega

/-- A piece takes its first character and perhaps more. -/
theorem take?_length_le {c : Char} {p : Piece} (h : take? c t = some (p, rest)) :
    rest.length ≤ t.length := by
  unfold take? at h
  split at h
  case h_7 | h_8 | h_9 => exact word?_length_le h
  case h_10 =>
    obtain ⟨q, hq, he⟩ := Option.map_eq_some_iff.1 h
    cases he
    exact codePoints?_length_le hq
  case h_11 =>
    obtain ⟨q, hq, he⟩ := Option.map_eq_some_iff.1 h
    cases he
    exact Nat.lt_succ_iff.1 (number?_length_lt hq)
  all_goals
    cases h
    exact Nat.le_refl _

/-- A text is cut into pieces, with space in front of each of them and behind the last one. -/
inductive Cuts : Text → List Piece → Prop
  | nil {t : Text} : t.dropWhile isSpace = [] → Cuts t []
  | cons {t u rest : Text} {c : Char} {p : Piece} {ps : List Piece} :
      t.dropWhile isSpace = c :: u → take? c u = some (p, rest) → Cuts rest ps → Cuts t (p :: ps)

theorem cuts_of_space {ps : List Piece} (h : t.dropWhile isSpace = []) : Cuts t ps ↔ ps = [] := by
  constructor
  · rintro (_ | ⟨hcons, -, -⟩)
    · rfl
    · rw [h] at hcons
      cases hcons
  · rintro rfl
    exact .nil h

theorem cuts_of_cons {u : Text} {c : Char} {ps : List Piece} (h : t.dropWhile isSpace = c :: u) :
    Cuts t ps ↔ ∃ p rest qs, take? c u = some (p, rest) ∧ Cuts rest qs ∧ p :: qs = ps := by
  constructor
  · rintro (hnil | ⟨hcons, htake, hrest⟩)
    · rw [h] at hnil
      cases hnil
    · rw [h] at hcons
      cases hcons
      exact ⟨_, _, _, htake, hrest, rfl⟩
  · rintro ⟨p, rest, qs, htake, hrest, rfl⟩
    exact .cons h htake hrest

theorem Cuts.length_le {ps : List Piece} (h : Cuts t ps) : ps.length ≤ t.length := by
  induction h with
  | nil => exact Nat.zero_le _
  | @cons t u rest c p ps hspace htake _ ih =>
    have hdrop := List.length_dropWhile_le isSpace t
    have hle := take?_length_le htake
    rw [hspace] at hdrop
    simp only [List.length_cons] at hdrop ⊢
    omega

theorem allWithin?_of_space (h : t.dropWhile isSpace = []) (fuel : Nat) :
    allWithin? fuel t = some [] := by
  rw [allWithin?, h]

theorem allWithin?_of_cons {u : Text} {c : Char} (h : t.dropWhile isSpace = c :: u) (fuel : Nat) :
    allWithin? (fuel + 1) t =
      (take? c u).bind fun q => (allWithin? fuel q.2).map (q.1 :: ·) := by
  rw [allWithin?, h]
  cases htake : take? c u with
  | none => simp only [htake, Option.bind_none]
  | some q => simp only [htake, Option.bind_some]

/-- Reading finds the pieces that a text is cut into if there is fuel for each of them. -/
theorem allWithin?_eq_some_iff {fuel : Nat} {ps : List Piece} :
    allWithin? fuel t = some ps ↔ Cuts t ps ∧ ps.length ≤ fuel := by
  have hspaces {fuel : Nat} {t : Text} {ps : List Piece} (h : t.dropWhile isSpace = []) :
      allWithin? fuel t = some ps ↔ Cuts t ps ∧ ps.length ≤ fuel := by
    rw [allWithin?_of_space h, cuts_of_space h, Option.some.injEq]
    constructor
    · rintro rfl
      exact ⟨rfl, Nat.zero_le fuel⟩
    · exact fun hps => hps.1.symm
  induction fuel generalizing t ps with
  | zero =>
    cases hspace : t.dropWhile isSpace with
    | nil => exact hspaces hspace
    | cons c u =>
      rw [allWithin?, hspace, cuts_of_cons hspace]
      refine iff_of_false (fun h => by cases h) ?_
      rintro ⟨⟨p, rest, qs, -, -, rfl⟩, hle⟩
      cases hle
  | succ fuel ih =>
    cases hspace : t.dropWhile isSpace with
    | nil => exact hspaces hspace
    | cons c u =>
      rw [allWithin?_of_cons hspace, cuts_of_cons hspace]
      simp only [Option.bind_eq_some_iff, Option.map_eq_some_iff, ih]
      constructor
      · rintro ⟨⟨p, rest⟩, htake, qs, ⟨hrest, hle⟩, rfl⟩
        exact ⟨⟨p, rest, qs, htake, hrest, rfl⟩, Nat.succ_le_succ hle⟩
      · rintro ⟨⟨p, rest, qs, htake, hrest, rfl⟩, hle⟩
        exact ⟨(p, rest), htake, qs, ⟨hrest, Nat.le_of_succ_le_succ hle⟩, rfl⟩

/-- Pieces are read until the text ends, which it does before the fuel does. -/
theorem all?_eq_some_iff {ps : List Piece} : all? t = some ps ↔ Cuts t ps := by
  rw [all?, allWithin?_eq_some_iff]
  exact and_iff_left_of_imp Cuts.length_le

end

end Json.Piece

/-! ### Strings -/

namespace Json
open Piece

/-- A control character is escaped by its two digits. -/
theorem hexValue?_hexDigit {n : Nat} (h : n < 32) :
    hexValue? '0' '0' (hexDigit (n / 16)) (hexDigit (n % 16)) = some n := by
  have hall : ∀ n : Fin 32,
      hexValue? '0' '0' (hexDigit (n / 16)) (hexDigit (n % 16)) = some n.1 := by
    decide +kernel
  exact hall ⟨n, h⟩

theorem toNat_lt_of_lt {c : Char} (h : c < ' ') : c.toNat < 32 := by
  simpa [Char.lt_def, UInt32.lt_iff_toNat_lt] using h

/-- Reading takes one character off a written string, whatever it is written as. -/
theorem codePoints?_writeChar (c : Char) (t : Text) :
    codePoints? (writeChar c ++ t) = (codePoints? t).map fun p => (c.toNat :: p.1, p.2) := by
  fun_cases writeChar c with
  | case8 c h1 h2 h3 h4 h5 h6 h7 hlow =>
    simp only [List.cons_append, List.nil_append, codePoints?,
      hexValue?_hexDigit (toNat_lt_of_lt hlow)]
  | case9 c hquote hslash h3 h4 h5 h6 h7 hlow =>
    rw [List.singleton_append, codePoints?, if_neg hlow]
    · exact hquote
    · exact fun _ _ _ _ _ h => absurd h hslash
    · exact fun _ _ h => absurd h hslash
  | _ => rfl

/-- The content of a written string is read as its code points. -/
theorem codePoints?_content (s rest : Text) :
    codePoints? (s.flatMap writeChar ++ '\x22' :: rest) = some (s.map Char.toNat, rest) := by
  induction s with
  | nil => rfl
  | cons c s ih =>
    rw [List.flatMap_cons, List.append_assoc, codePoints?_writeChar, ih]
    rfl

theorem not_isHigh_toNat (c : Char) : isHigh c.toNat = false ∧ isLow c.toNat = false := by
  have hvalid : c.toNat < 0xd800 ∨ 0xdfff < c.toNat ∧ c.toNat < 0x110000 := c.valid
  simp only [isHigh, isLow, Bool.and_eq_false_imp, decide_eq_true_eq, decide_eq_false_iff_not]
  omega

/-- The code points of a text stand for it: there are no surrogates among them. -/
theorem textOfCodePoints?_toNat (s : Text) : textOfCodePoints? (s.map Char.toNat) = some s := by
  induction s with
  | nil => rfl
  | cons c s ih =>
    obtain ⟨hhigh, hlow⟩ := not_isHigh_toNat c
    cases s with
    | nil => simp [textOfCodePoints?, hhigh, hlow]
    | cons d s =>
      rw [List.map_cons] at ih
      simp [textOfCodePoints?, hhigh, hlow, ih]

end Json

/-! ### Whole numbers -/

namespace Text

theorem isDigit_of_mem_ofNat {n : Nat} {c : Char} (h : c ∈ ofNat n) : c.isDigit = true :=
  Nat.isDigit_of_mem_toDigits (by decide) (by decide) h

theorem digitsValue_ofNat (n : Nat) : digitsValue (ofNat n) = n :=
  Nat.ofDigitChars_ten_toDigits

/-- Only zero is written with a zero in front. -/
theorem ofNat_of_head?_eq_zero {n : Nat} (h : (ofNat n).head? = some '0') : ofNat n = ['0'] := by
  induction n using Nat.strongRecOn with
  | ind n ih =>
    by_cases hn : n < 10
    · have hall : ∀ n : Fin 10, (ofNat n).head? = some '0' → ofNat n = ['0'] := by decide +kernel
      exact hall ⟨n, hn⟩ h
    · have hdigits : ofNat n = ofNat (n / 10) ++ [Nat.digitChar (n % 10)] :=
        Nat.toDigits_of_base_le (by decide) (by omega)
      have hne : ofNat (n / 10) ≠ [] := Nat.toDigits_ne_nil
      rw [hdigits, List.head?_append_of_ne_nil _ hne] at h
      have hzero := ih (n / 10) (by omega) h
      have hvalue := digitsValue_ofNat (n / 10)
      rw [hzero] at hvalue
      have hsmall : (0 : Nat) = n / 10 := hvalue
      omega

end Text

namespace Json
open Text Piece

/-- A written whole number. -/
def Number.ofInt (n : Int) : Number :=
  ⟨n < 0, Text.ofNat n.natAbs, none, none⟩

/-- A text does not go on with a number that stands in front of it. -/
def EndsNumber (rest : Text) : Prop :=
  ∀ c, rest.head? = some c → c.isDigit = false ∧ c ≠ '.' ∧ c ≠ 'e' ∧ c ≠ 'E'

section
variable {rest : Text} (hrest : EndsNumber rest)
include hrest

theorem digits?_ofNat (n : Nat) : digits? (ofNat n ++ rest) = some (ofNat n, rest) := by
  have hdigits : ∀ c ∈ ofNat n, c.isDigit = true := fun c => isDigit_of_mem_ofNat
  have hcut : rest.takeWhile Char.isDigit = [] ∧ rest.dropWhile Char.isDigit = rest := by
    cases rest with
    | nil => exact ⟨rfl, rfl⟩
    | cons c t => simp [(hrest c rfl).1]
  have hne : ofNat n ≠ [] := Nat.toDigits_ne_nil
  rw [digits?, List.takeWhile_append_of_pos hdigits, List.dropWhile_append_of_pos hdigits, hcut.1,
    hcut.2, List.append_nil, if_neg (by simpa using hne)]

theorem whole?_ofNat (n : Nat) : whole? (ofNat n ++ rest) = some (ofNat n, rest) := by
  by_cases hzero : (ofNat n).head? = some '0'
  · rw [ofNat_of_head?_eq_zero hzero, List.singleton_append, whole?]
    cases rest with
    | nil => rfl
    | cons c t => simp [(hrest c rfl).1]
  · rw [whole?]
    · exact digits?_ofNat hrest n
    · intro t ht
      have hne : ofNat n ≠ [] := Nat.toDigits_ne_nil
      rw [← List.head?_append_of_ne_nil _ hne, ht] at hzero
      exact hzero rfl

theorem fraction?_rest : fraction? rest = some (none, rest) := by
  rw [fraction?]
  intro t ht
  exact (hrest '.' (by rw [ht]; rfl)).2.1 rfl

theorem exponent?_rest : exponent? rest = some (none, rest) := by
  cases rest with
  | nil => rfl
  | cons c t =>
    obtain ⟨-, -, hlower, hupper⟩ := hrest c rfl
    simp [exponent?, hlower, hupper]

theorem unsigned?_ofNat (negative : Bool) (n : Nat) :
    unsigned? negative (ofNat n ++ rest) = some (⟨negative, ofNat n, none, none⟩, rest) := by
  simp [unsigned?, whole?_ofNat hrest, fraction?_rest hrest, exponent?_rest hrest]

/-- A written whole number is read up to its end. -/
theorem number?_ofInt (n : Int) :
    number? (Text.ofInt n ++ rest) = some (Number.ofInt n, rest) := by
  by_cases hn : n < 0
  · rw [Text.ofInt, if_pos hn, List.cons_append, number?, unsigned?_ofNat hrest, Number.ofInt]
    simp [hn]
  · rw [Text.ofInt, if_neg hn, number?, unsigned?_ofNat hrest, Number.ofInt]
    · simp [hn]
    · intro t ht
      have hne : ofNat n.natAbs ≠ [] := Nat.toDigits_ne_nil
      have hmem : '-' ∈ ofNat n.natAbs := by
        apply List.mem_of_head?
        rw [← List.head?_append_of_ne_nil _ hne, ht]
        rfl
      exact absurd (isDigit_of_mem_ofNat hmem) (by decide)

end

theorem toInt32?_ofInt {n : Int} (h : isInt32 n = true) : (Number.ofInt n).toInt32? = some n := by
  by_cases hn : n < 0
  · have hvalue : -((n.natAbs : Nat) : Int) = n := by omega
    have hzero : n.natAbs ≠ 0 := by omega
    simp only [Number.toInt32?, Number.ofInt, digitsValue_ofNat, hn, decide_true, if_true, hvalue,
      h]
    simp [hzero]
  · have hvalue : ((n.natAbs : Nat) : Int) = n := by omega
    simp only [Number.toInt32?, Number.ofInt, digitsValue_ofNat, hn, decide_false,
      Bool.false_eq_true, if_false, hvalue, h]
    rfl

/-- A number is read as one of 32 bits or not at all. -/
theorem isInt32_of_toInt32? {number : Number} {n : Int} (h : number.toInt32? = some n) :
    isInt32 n = true := by
  simp only [Number.toInt32?, Option.ite_none_right_eq_some, Option.some.injEq,
    Bool.and_eq_true] at h
  obtain ⟨⟨-, hrange⟩, rfl⟩ := h
  exact hrange

/-! ### Pieces in front of a text -/

namespace Piece
variable {rest : Text} {ps : List Piece}

/-- A written string is one piece. -/
theorem Cuts.string (s : Text) (h : Cuts rest ps) :
    Cuts (writeString s ++ rest) (.string (some s) :: ps) := by
  have hspace : (writeString s ++ rest).dropWhile isSpace =
      '\x22' :: (s.flatMap writeChar ++ '\x22' :: rest) := by
    simp [writeString, isSpace]
  have htake : take? '\x22' (s.flatMap writeChar ++ '\x22' :: rest) =
      some (.string (some s), rest) := by
    rw [take?, codePoints?_content, Option.map_some, textOfCodePoints?_toNat]
  exact .cons hspace htake h

/-- A character that starts a number starts no other piece. -/
theorem take?_of_number {c : Char} (h : c = '-' ∨ c.isDigit = true) (t : Text) :
    take? c t = (number? (c :: t)).map fun p => (.number p.1, p.2) := by
  unfold take?
  split
  case h_11 => rfl
  all_goals exact absurd h (by decide)

theorem exists_ofInt (n : Int) :
    ∃ c t, Text.ofInt n = c :: t ∧ (c = '-' ∨ c.isDigit = true) := by
  by_cases hn : n < 0
  · exact ⟨'-', _, by rw [Text.ofInt, if_pos hn], .inl rfl⟩
  · have hne : Text.ofNat n.natAbs ≠ [] := Nat.toDigits_ne_nil
    obtain ⟨c, t, ht⟩ := List.exists_cons_of_ne_nil hne
    have hc : c.isDigit = true := Text.isDigit_of_mem_ofNat (ht ▸ List.mem_cons_self)
    exact ⟨c, t, by rw [Text.ofInt, if_neg hn, ht], .inr hc⟩

/-- A written whole number is one piece. -/
theorem Cuts.number (n : Int) (hrest : EndsNumber rest) (h : Cuts rest ps) :
    Cuts (Text.ofInt n ++ rest) (.number (Number.ofInt n) :: ps) := by
  obtain ⟨c, t, ht, hc⟩ := exists_ofInt n
  have hread := number?_ofInt hrest n
  rw [ht] at hread ⊢
  have hblank : isSpace c = false := by
    apply Bool.eq_false_iff.2
    intro hs
    simp only [isSpace, Bool.or_eq_true, beq_iff_eq] at hs
    rcases hs with ((rfl | rfl) | rfl) | rfl
    all_goals exact absurd hc (by decide)
  have hspace : (c :: t ++ rest).dropWhile isSpace = c :: (t ++ rest) := by
    simp [hblank]
  have htake : take? c (t ++ rest) = some (.number (Number.ofInt n), rest) := by
    rw [take?_of_number hc, ← List.cons_append, hread, Option.map_some]
  exact .cons hspace htake h

end Piece
end Json
end GeneratedKeys
