import GeneratedKeys.Proofs.Lexing
import GeneratedKeys.Text.Blank
import Mathlib

/-!
# How tokens are spelled

The written forms of the tokens of each kind, given by their characters and without regard to how
they are cut off a text. Every token that is not malformed is spelled like this, and every text that
is spelled like this is taken as one token. A blank is a break, so it ends each of them.
-/
namespace GeneratedKeys

namespace Text

/-- The code points in some ranges. -/
def Ranges.points (rs : Ranges) : List Nat :=
  rs.flatMap fun r => List.range' r.1 (r.2 + 1 - r.1)

theorem Ranges.mem_points {rs : Ranges} {n : Nat} (h : rs.holds n = true) : n ∈ rs.points := by
  obtain ⟨r, hr, hlow, hhigh⟩ := Ranges.holds_iff.1 h
  have hn : n ∈ List.range' r.1 (r.2 + 1 - r.1) := by
    rw [List.mem_range'_1]
    omega
  exact List.mem_flatMap.2 ⟨r, hr, hn⟩

/-- A fact about ASCII characters can be looked up for each of them. -/
theorem of_ascii {p : Char → Prop} (hall : ∀ n : Fin 0x80, p (Char.ofNat n)) {c : Char}
    (hc : c.toNat < 0x80) : p c := by
  have h := hall ⟨c.toNat, hc⟩
  rwa [Char.ofNat_toNat] at h

theorem toNat_of_isLower {c : Char} (h : c.isLower = true) : 97 ≤ c.toNat ∧ c.toNat ≤ 122 := by
  have hl : (decide ('a'.val ≤ c.val) && decide (c.val ≤ 'z'.val)) = true := h
  simpa [UInt32.le_iff_toNat_le] using hl

theorem toNat_of_isAlpha {c : Char} (h : c.isAlpha = true) : c.toNat < 0x80 := by
  have hor : (decide ('A'.val ≤ c.val ∧ c.val ≤ 'Z'.val) || c.isLower) = true := h
  rw [Bool.or_eq_true] at hor
  rcases hor with hu | hl
  · have hz : c.val ≤ 'Z'.val := (of_decide_eq_true hu).2
    have hn : c.toNat ≤ 90 := UInt32.le_iff_toNat_le.1 hz
    omega
  · have hn := toNat_of_isLower hl
    omega

theorem not_isLower_of_le {c : Char} (hc : ¬ c.toNat < 0x80) : c.isLower = false := by
  apply Bool.eq_false_iff.2
  intro hl
  have hn := toNat_of_isLower hl
  omega

end Text

namespace Token
open Text

/-! ### Forms -/

def AreDigits (t : Text) : Prop :=
  ∀ c ∈ t, c.isDigit = true

instance (t : Text) : Decidable (AreDigits t) :=
  decidable_of_iff (t.all Char.isDigit = true) List.all_eq_true

def IsFraction (t : Text) : Prop :=
  t = [] ∨ ∃ digits, t = '.' :: digits ∧ digits ≠ [] ∧ AreDigits digits

/-- An exponent, which may be missing, as may its sign and its digits. -/
def IsExponent (t : Text) : Prop :=
  t = [] ∨ ∃ e sign digits, t = e :: (sign ++ digits) ∧ (e = 'e' ∨ e = 'E') ∧
    (sign = [] ∨ sign = ['+'] ∨ sign = ['-']) ∧ AreDigits digits

def IsNumber (t : Text) : Prop :=
  ∃ whole fraction exponent, t = whole ++ (fraction ++ exponent) ∧ whole ≠ [] ∧
    AreDigits whole ∧ IsFraction fraction ∧ IsExponent exponent

def IsWord (t : Text) : Prop :=
  ∃ c rest, t = c :: rest ∧ isWordStart c = true ∧ ∀ d ∈ rest, isWordPart d = true

/-- A text spells a keyword up to the case of ASCII letters. -/
def SpellsKeyword (k : Keyword) (t : Text) : Prop :=
  t.map Char.toUpper = k.letters

instance (k : Keyword) (t : Text) : Decidable (SpellsKeyword k t) :=
  inferInstanceAs (Decidable (t.map Char.toUpper = k.letters))

def delimiters : List (Kind × Text) := [
  (.leftParen, ['(']), (.rightParen, [')']), (.comma, [',']), (.semicolon, [';']), (.dot, ['.']),
  (.eq, ['=']), (.question, ['?']), (.colon, [':'])]

def operators : List Text := [
  ['+'], ['-'], ['*'], ['/'], ['%'], ['<'], ['<', '='], ['<', '>'], ['>'], ['>', '='],
  ['|'], ['|', '|'], ['!', '='], ['!', '<'], ['!', '>'], ['^', '='], ['^', '<'], ['^', '>'],
  ['~', '='], ['~', '<'], ['~', '>']]

/-- The written forms of the tokens of a kind. -/
inductive Spells : Kind → Text → Prop
  | number {t : Text} : IsNumber t → Spells (.number t) t
  | string (content : Text) : Spells (.string content) (Quoted.write '\x27' content)
  | identifier {t : Text} : IsWord t → (∀ k, ¬ SpellsKeyword k t) → Spells (.identifier t) t
  | quotedIdentifier {content : Text} : content ≠ [] →
      Spells (.quotedIdentifier content) (Quoted.write '\x22' content)
  | keyword {k : Keyword} {t : Text} : SpellsKeyword k t → Spells (.keyword k) t
  | delimiter {k : Kind} {t : Text} : (k, t) ∈ delimiters → Spells k t
  | operator {t : Text} : t ∈ operators → Spells (.operator t) t

/-! ### Characters -/

theorem of_isBlank {c : Char} (h : isBlank c = true) :
    isWordPart c = false ∧ c.isDigit = false ∧
      c ∉ ['.', '+', '-', '*', '/', '=', '<', '>', '|', '\x27', '\x22'] := by
  have hall : ∀ n ∈ blankRanges.points, isWordPart (Char.ofNat n) = false ∧
      (Char.ofNat n).isDigit = false ∧
      Char.ofNat n ∉ ['.', '+', '-', '*', '/', '=', '<', '>', '|', '\x27', '\x22'] := by
    decide +kernel
  have hc := hall c.toNat (Ranges.mem_points h)
  rwa [Char.ofNat_toNat] at hc

/-- A blank ends every token before it. -/
theorem breaks_of_isBlank {c : Char} (h : isBlank c = true) : Breaks c := by
  obtain ⟨hword, hdigit, hsign⟩ := of_isBlank h
  exact ⟨hword, hdigit, hsign⟩

theorem not_isBlank_of_isWordPart {c : Char} (h : isWordPart c = true) : isBlank c = false := by
  apply Bool.eq_false_iff.2
  intro hb
  rw [(of_isBlank hb).1] at h
  cases h

theorem isWordPart_of_isWordStart {c : Char} (h : isWordStart c = true) : isWordPart c = true := by
  simp only [isWordStart, Bool.or_eq_true] at h
  simp only [isWordPart, Bool.or_eq_true]
  rcases h with h | h
  · exact .inl (.inl (.inl h))
  · exact .inl (.inr h)

/-- A character that makes no token by itself and starts neither an operator nor a quoted text. -/
def isPlain (c : Char) : Bool :=
  delimiter? c == none && operatorRule? c == none && c != '\x27' && c != '\x22'

theorem lt_of_delimiter {c : Char} {k : Kind} (h : delimiter? c = some k) : c.toNat < 0x80 := by
  unfold delimiter? at h
  split at h <;> cases h <;> decide

theorem lt_of_operatorRule {c : Char} {rule : OperatorRule} (h : operatorRule? c = some rule) :
    c.toNat < 0x80 := by
  unfold operatorRule? at h
  split at h <;> cases h <;> decide

theorem isPlain_of_le {c : Char} (hc : ¬ c.toNat < 0x80) : isPlain c = true := by
  have hdelimiter : delimiter? c = none :=
    Option.eq_none_iff_forall_ne_some.2 fun k hk => hc (lt_of_delimiter hk)
  have hoperator : operatorRule? c = none :=
    Option.eq_none_iff_forall_ne_some.2 fun rule hr => hc (lt_of_operatorRule hr)
  have hstring : c ≠ '\x27' := by
    rintro rfl
    exact hc (by decide)
  have hquoted : c ≠ '\x22' := by
    rintro rfl
    exact hc (by decide)
  simp [isPlain, hdelimiter, hoperator, hstring, hquoted]

theorem isPlain_of_isWordPart {c : Char} (h : isWordPart c = true) : isPlain c = true := by
  by_cases hc : c.toNat < 0x80
  · revert h
    exact of_ascii (p := fun c => isWordPart c = true → isPlain c = true) (by decide +kernel) hc
  · exact isPlain_of_le hc

theorem toNat_of_isDigit {c : Char} (h : c.isDigit = true) : 48 ≤ c.toNat ∧ c.toNat ≤ 57 := by
  simpa [Char.isDigit, UInt32.le_iff_toNat_le] using h

theorem isWordPart_of_isDigit {c : Char} (h : c.isDigit = true) : isWordPart c = true := by
  have hc : c.toNat < 0x80 := by
    have := toNat_of_isDigit h
    omega
  have hn : isNumeric c = true := by rw [isNumeric, if_pos hc, h]
  simp [isWordPart, hn]

theorem isDigit_of_isWordStart {c : Char} (h : isWordStart c = true) : c.isDigit = false := by
  by_cases hc : c.toNat < 0x80
  · revert h
    exact of_ascii (p := fun c => isWordStart c = true → c.isDigit = false) (by decide +kernel) hc
  · apply Bool.eq_false_iff.2
    intro hd
    have := toNat_of_isDigit hd
    omega

theorem isWordStart_of_isAlpha {c : Char} (h : c.isAlpha = true) : isWordStart c = true := by
  have halpha : isAlphabetic c = true := by rw [isAlphabetic, if_pos (toNat_of_isAlpha h), h]
  rw [isWordStart, halpha, Bool.true_or]

/-! ### What is spelled is taken -/

/-- A text that is taken as one token of a kind, with nothing in front of it or behind it. -/
def IsLexeme (k : Kind) : Text → Prop
  | [] => False
  | c :: r => Layout.split .blank (c :: r) = ([], c :: r) ∧ take c r = (⟨k, c :: r⟩, [])

instance (k : Kind) : (t : Text) → Decidable (IsLexeme k t)
  | [] => inferInstanceAs (Decidable False)
  | _ :: _ => inferInstanceAs (Decidable (_ ∧ _))

theorem take_of_isPlain {c : Char} (h : isPlain c = true) (t : Text) :
    take c t =
      if c.isDigit then takeNumber (c :: t)
      else if isWordStart c then takeWord c t
      else (⟨.malformed (.unexpected c), [c]⟩, t) := by
  simp only [isPlain, Bool.and_eq_true, beq_iff_eq, bne_iff_ne] at h
  obtain ⟨⟨⟨hdelimiter, hoperator⟩, hstring⟩, hquoted⟩ := h
  simp only [take, hdelimiter, hoperator, if_neg hstring, if_neg hquoted]

theorem take_of_isDigit {c : Char} (h : c.isDigit = true) (t : Text) :
    take c t = takeNumber (c :: t) := by
  rw [take_of_isPlain (isPlain_of_isWordPart (isWordPart_of_isDigit h)), if_pos h]

theorem take_of_isWordStart {c : Char} (h : isWordStart c = true) (t : Text) :
    take c t = takeWord c t := by
  have hd : ¬ c.isDigit = true := by simp [isDigit_of_isWordStart h]
  rw [take_of_isPlain (isPlain_of_isWordPart (isWordPart_of_isWordStart h)), if_neg hd, if_pos h]

theorem split_of_isWordPart {c : Char} (h : isWordPart c = true) (t : Text) :
    Layout.split .blank (c :: t) = ([], c :: t) := by
  have hp := isPlain_of_isWordPart h
  have hdash : c ≠ '-' := by
    rintro rfl
    exact absurd hp (by decide)
  have hslash : c ≠ '/' := by
    rintro rfl
    exact absurd hp (by decide)
  exact Layout.split_of_not_blank (not_isBlank_of_isWordPart h) hdash hslash t

theorem splitDigits_of_areDigits {digits rest : Text} (h : AreDigits digits)
    (hr : ∀ c, rest.head? = some c → c.isDigit = false) :
    splitDigits (digits ++ rest) = (digits, rest) := by
  have hcut : rest.takeWhile Char.isDigit = [] ∧ rest.dropWhile Char.isDigit = rest := by
    cases rest with
    | nil => exact ⟨rfl, rfl⟩
    | cons c t => simp [hr c rfl]
  rw [splitDigits, List.takeWhile_append_of_pos h, List.dropWhile_append_of_pos h, hcut.1, hcut.2,
    List.append_nil]

theorem IsExponent.head {t : Text} (h : IsExponent t) {c : Char} (hc : t.head? = some c) :
    c = 'e' ∨ c = 'E' := by
  rcases h with rfl | ⟨e, sign, digits, rfl, he, -, -⟩
  · cases hc
  · cases hc
    exact he

theorem IsExponent.head_apart {t : Text} (h : IsExponent t) {c : Char} (hc : t.head? = some c) :
    c.isDigit = false ∧ c ≠ '.' := by
  rcases h.head hc with rfl | rfl
  · decide
  · decide

/-- A sign in front of digits is cut off, also where it is missing. -/
theorem splitSign_of_sign {sign rest : Text} (hsign : sign = [] ∨ sign = ['+'] ∨ sign = ['-'])
    (hr : sign = [] → ∀ c, rest.head? = some c → c.isDigit = true) :
    splitSign (sign ++ rest) = (sign, rest) := by
  rcases hsign with rfl | rfl | rfl
  · cases rest with
    | nil => rfl
    | cons d t =>
      have hd := toNat_of_isDigit (hr rfl d rfl)
      have hn : ¬ (d = '+' ∨ d = '-') := by
        rintro (rfl | rfl)
        · exact absurd hd (by decide)
        · exact absurd hd (by decide)
      simp [splitSign, hn]
  · rfl
  · rfl

theorem splitExponent_of_isExponent {t : Text} (h : IsExponent t) : splitExponent t = (t, []) := by
  rcases h with rfl | ⟨e, sign, digits, rfl, he, hsign, hdigits⟩
  · rfl
  · have hs : splitSign (sign ++ digits) = (sign, digits) :=
      splitSign_of_sign hsign fun _ c hc => hdigits c (List.mem_of_mem_head? hc)
    have hd : splitDigits digits = (digits, []) := by
      have hcut : splitDigits (digits ++ []) = (digits, []) :=
        splitDigits_of_areDigits hdigits (by simp)
      rwa [List.append_nil] at hcut
    simp [splitExponent, he, hs, hd]

theorem splitFraction_of_isFraction {t rest : Text} (h : IsFraction t)
    (hr : ∀ c, rest.head? = some c → c.isDigit = false ∧ c ≠ '.') :
    splitFraction (t ++ rest) = (t, rest) := by
  rcases h with rfl | ⟨digits, rfl, hne, hdigits⟩
  · rw [List.nil_append, splitFraction]
    intro d t ht
    exact (hr '.' (by rw [ht]; rfl)).2 rfl
  · obtain ⟨d, ds, rfl⟩ := List.exists_cons_of_ne_nil hne
    have hd : d.isDigit = true := hdigits d List.mem_cons_self
    have hds : AreDigits ds := fun e he => hdigits e (List.mem_cons_of_mem d he)
    have hcut : splitDigits (ds ++ rest) = (ds, rest) :=
      splitDigits_of_areDigits hds fun c hc => (hr c hc).1
    simp [splitFraction, hd, hcut]

theorem takeNumber_of_isNumber {t : Text} (h : IsNumber t) :
    takeNumber t = (⟨.number t, t⟩, []) := by
  obtain ⟨whole, fraction, exponent, rfl, -, hwhole, hfraction, hexponent⟩ := h
  have hrest : ∀ c, (fraction ++ exponent).head? = some c → c.isDigit = false := by
    intro c hc
    rcases hfraction with rfl | ⟨digits, rfl, -⟩
    · exact (hexponent.head_apart hc).1
    · cases hc
      decide
  simp only [takeNumber, splitDigits_of_areDigits hwhole hrest,
    splitFraction_of_isFraction hfraction fun c hc => hexponent.head_apart hc,
    splitExponent_of_isExponent hexponent]

theorem isLexeme_number {t : Text} (h : IsNumber t) : IsLexeme (.number t) t := by
  have ht := takeNumber_of_isNumber h
  obtain ⟨whole, rest, exponent, rfl, hne, hwhole, -⟩ := h
  obtain ⟨c, w, rfl⟩ := List.exists_cons_of_ne_nil hne
  have hc : c.isDigit = true := hwhole c List.mem_cons_self
  refine ⟨split_of_isWordPart (isWordPart_of_isDigit hc) _, ?_⟩
  rw [take_of_isDigit hc]
  exact ht

theorem isLexeme_word {t : Text} (h : IsWord t) : IsLexeme (wordKind t) t := by
  obtain ⟨c, rest, rfl, hc, hrest⟩ := h
  refine ⟨split_of_isWordPart (isWordPart_of_isWordStart hc) rest, ?_⟩
  have htake : rest.takeWhile isWordPart = rest := List.takeWhile_eq_self_iff.2 hrest
  have hdrop : rest.dropWhile isWordPart = [] := List.dropWhile_eq_nil_iff.2 hrest
  rw [take_of_isWordStart hc, takeWord, htake, hdrop]

theorem ofText?_eq_some_iff {t : Text} {k : Keyword} :
    Keyword.ofText? t = some k ↔ SpellsKeyword k t := by
  have hinj : ∀ i ∈ Keyword.all, ∀ j ∈ Keyword.all, i.letters = j.letters → i = j := by
    decide +kernel
  rw [Keyword.ofText?, SpellsKeyword]
  constructor
  · intro h
    have hk := List.find?_some h
    exact (beq_iff_eq.1 hk).symm
  · intro h
    cases hf : Keyword.all.find? fun k => k.letters == t.map Char.toUpper with
    | none =>
      have hk := List.find?_eq_none.1 hf k k.mem_all
      exact absurd (beq_iff_eq.2 h.symm) hk
    | some j =>
      have hj := List.find?_some hf
      rw [beq_iff_eq] at hj
      rw [hinj j j.mem_all k k.mem_all (hj.trans h)]

theorem wordKind_of_spellsKeyword {t : Text} {k : Keyword} (h : SpellsKeyword k t) :
    wordKind t = .keyword k := by
  simp only [wordKind, ofText?_eq_some_iff.2 h]

theorem wordKind_of_forall {t : Text} (h : ∀ k, ¬ SpellsKeyword k t) :
    wordKind t = .identifier t := by
  have hn : Keyword.ofText? t = none :=
    Option.eq_none_iff_forall_ne_some.2 fun k hk => h k (ofText?_eq_some_iff.1 hk)
  simp only [wordKind, hn]

/-- A keyword is a word in whatever case its letters are. -/
theorem isWord_of_spellsKeyword {t : Text} {k : Keyword} (h : SpellsKeyword k t) : IsWord t := by
  have hk : ∀ k ∈ Keyword.all, k.letters ≠ [] ∧ k.letters.all Char.isAlpha = true := by
    decide +kernel
  obtain ⟨hne, hall⟩ := hk k k.mem_all
  have halpha := List.all_eq_true.1 hall
  have hstart : ∀ c ∈ t, isWordStart c = true := by
    intro c hc
    have hm : c.toUpper ∈ t.map Char.toUpper := List.mem_map_of_mem hc
    have hu : c.toUpper.isAlpha = true := halpha _ (h ▸ hm)
    exact isWordStart_of_isAlpha ((Char.isAlpha_toUpper_eq_isAlpha c).symm.trans hu)
  cases t with
  | nil => exact absurd h.symm hne
  | cons c rest =>
    refine ⟨c, rest, rfl, hstart c List.mem_cons_self, fun d hd => ?_⟩
    exact isWordPart_of_isWordStart (hstart d (List.mem_cons_of_mem c hd))

theorem isLexeme_string (content : Text) :
    IsLexeme (.string content) (Quoted.write '\x27' content) := by
  refine ⟨Layout.split_of_not_blank (by decide) (by decide) (by decide) _, ?_⟩
  have hread : Quoted.read '\x27' (Quoted.double '\x27' content ++ ['\x27']) = some (content, []) :=
    read_double content (by simp)
  change takeString (Quoted.double '\x27' content ++ ['\x27']) = _
  simp only [takeString, hread, Quoted.write]

theorem isLexeme_quotedIdentifier {content : Text} (h : content ≠ []) :
    IsLexeme (.quotedIdentifier content) (Quoted.write '\x22' content) := by
  refine ⟨Layout.split_of_not_blank (by decide) (by decide) (by decide) _, ?_⟩
  have hread : Quoted.read '\x22' (Quoted.double '\x22' content ++ ['\x22']) = some (content, []) :=
    read_double content (by simp)
  change takeQuotedIdentifier (Quoted.double '\x22' content ++ ['\x22']) = _
  simp only [takeQuotedIdentifier, hread, List.isEmpty_eq_false_iff.2 h, Quoted.write]
  rfl

theorem isLexeme_delimiters : ∀ p ∈ delimiters, IsLexeme p.1 p.2 := by
  decide +kernel

theorem isLexeme_operators : ∀ t ∈ operators, IsLexeme (.operator t) t := by
  decide +kernel

theorem Spells.isLexeme {k : Kind} {t : Text} (h : Spells k t) : IsLexeme k t := by
  cases h with
  | number h => exact isLexeme_number h
  | string content => exact isLexeme_string content
  | identifier h hk => exact wordKind_of_forall hk ▸ isLexeme_word h
  | quotedIdentifier h => exact isLexeme_quotedIdentifier h
  | keyword h => exact wordKind_of_spellsKeyword h ▸ isLexeme_word (isWord_of_spellsKeyword h)
  | delimiter h => exact isLexeme_delimiters _ h
  | operator h => exact isLexeme_operators t h

/-! ### What is taken is spelled -/

theorem areDigits_takeWhile (t : Text) : AreDigits (t.takeWhile Char.isDigit) :=
  fun _ hc => List.mem_takeWhile_imp hc

theorem isFraction_splitFraction (t : Text) : IsFraction (splitFraction t).1 := by
  fun_cases splitFraction t with
  | case1 d t hd =>
    refine .inr ⟨_, rfl, by simp, fun c hc => ?_⟩
    rcases List.mem_cons.1 hc with rfl | hc
    · exact hd
    · exact areDigits_takeWhile t c hc
  | case2 => exact .inl rfl
  | case3 => exact .inl rfl

theorem isExponent_splitExponent (t : Text) : IsExponent (splitExponent t).1 := by
  fun_cases splitExponent t with
  | case1 c t hc sign digits =>
    refine .inr ⟨c, sign.1, digits.1, rfl, hc, ?_, areDigits_takeWhile sign.2⟩
    change (splitSign t).1 = [] ∨ _
    fun_cases splitSign t with
    | case1 d t hd => rcases hd with rfl | rfl <;> simp [sign, splitSign]
    | case2 => exact .inl rfl
    | case3 => exact .inl rfl
  | case2 => exact .inl rfl
  | case3 => exact .inl rfl

theorem isNumber_takeNumber {c : Char} (h : c.isDigit = true) (t : Text) :
    IsNumber (takeNumber (c :: t)).1.raw :=
  ⟨_, _, _, rfl, by simp [splitDigits, h], areDigits_takeWhile _, isFraction_splitFraction _,
    isExponent_splitExponent _⟩

theorem spells_wordKind {t : Text} (h : IsWord t) : Spells (wordKind t) t := by
  unfold wordKind
  split
  · next k hk => exact .keyword (ofText?_eq_some_iff.1 hk)
  · next hn =>
    refine .identifier h fun k hk => ?_
    rw [ofText?_eq_some_iff.2 hk] at hn
    cases hn

theorem delimiter_mem {c : Char} {k : Kind} (h : delimiter? c = some k) : (k, [c]) ∈ delimiters := by
  unfold delimiter? at h
  split at h <;> cases h <;> decide

theorem operator_mem {c : Char} {rule : OperatorRule} (h : operatorRule? c = some rule) :
    (rule.alone = true → [c] ∈ operators) ∧ ∀ d ∈ rule.seconds, [c, d] ∈ operators := by
  unfold operatorRule? at h
  split at h <;> cases h <;> simp [operators]

/-- A token that is not malformed is spelled. -/
theorem spells_take {c : Char} {t : Text} (h : ∀ m, (take c t).1.kind ≠ .malformed m) :
    Spells (take c t).1.kind (take c t).1.raw := by
  revert h
  fun_cases take c t with
  | case1 k hk => exact fun _ => .delimiter (delimiter_mem hk)
  | case2 _ rule hr =>
    obtain ⟨halone, hseconds⟩ := operator_mem hr
    have hlone (h : ∀ m, (loneOperator rule c).kind ≠ .malformed m) :
        Spells (loneOperator rule c).kind (loneOperator rule c).raw := by
      unfold loneOperator at h ⊢
      cases ha : rule.alone with
      | false => simp [ha] at h
      | true => exact .operator (halone ha)
    fun_cases takeOperator rule c t with
    | case1 d t hd => exact fun _ => .operator (hseconds d hd)
    | case2 => exact hlone
    | case3 => exact hlone
  | case3 =>
    fun_cases takeString t with
    | case1 content => exact fun _ => .string content
    | case2 => exact fun h => absurd rfl (h .openString)
  | case4 =>
    fun_cases takeQuotedIdentifier t with
    | case1 content rest hr =>
      cases content with
      | nil => exact fun h => absurd rfl (h .emptyIdentifier)
      | cons d content => exact fun _ => .quotedIdentifier (by simp)
    | case2 => exact fun h => absurd rfl (h .openIdentifier)
  | case5 _ _ _ _ hd => exact fun _ => .number (isNumber_takeNumber hd t)
  | case6 _ _ _ _ _ hc =>
    exact fun _ => spells_wordKind ⟨c, _, rfl, hc, fun d hd => List.mem_takeWhile_imp hd⟩
  | case7 => exact fun h => absurd rfl (h (.unexpected c))

/-- The tokens of a text that are not malformed are spelled. -/
theorem spells_of_mem_lexemes {t : Text} {u : Token} (hu : u ∈ lexemes t)
    (h : ∀ m, u.kind ≠ .malformed m) : Spells u.kind u.raw := by
  obtain ⟨before, c, rest, -, rfl⟩ := Cursor.exists_take_of_mem_lexemes hu
  exact spells_take h

/-- An identifier is a word or quoted. -/
theorem Spells.isWord_or_quoted {k : Kind} {t : Text} (h : Spells k t)
    (hk : k.isIdentifier = true) :
    IsWord t ∨ ∃ content, content ≠ [] ∧ t = Quoted.write '\x22' content := by
  cases h with
  | identifier h => exact .inl h
  | quotedIdentifier hne => exact .inr ⟨_, hne, rfl⟩
  | delimiter hd =>
    have hall : ∀ p ∈ delimiters, p.1.isIdentifier = false := by decide
    rw [hall _ hd] at hk
    cases hk
  | _ => cases hk

/-- An identifier without a quote in front is a word. -/
theorem isWord_of_spells {k : Kind} {t : Text} (h : Spells k t) (hk : k.isIdentifier = true)
    (hquote : t.head? ≠ some '\x22') : IsWord t := by
  rcases h.isWord_or_quoted hk with hw | ⟨content, -, rfl⟩
  · exact hw
  · exact absurd rfl hquote

end Token
end GeneratedKeys
