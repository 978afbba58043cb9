import GeneratedKeys.Proofs.Spelling

/-!
# Tokens are as long as they can be

A token that is not malformed is spelled as its kind says, and no longer piece of the text that
starts where it does is of its class. What is malformed is a quoted text that nothing closes, a
quoted identifier with nothing in it, or one character that starts no token of any class there.
-/
namespace GeneratedKeys

namespace Text

/-- A piece of a text that starts at an offset. -/
def StartsAt (t : Text) (start : Nat) (piece : Text) : Prop :=
  ∃ stop, Span.slice? ⟨start, stop⟩ t = some piece

theorem prefix_of_takeSize? {n : Nat} {t piece : Text} (h : takeSize? n t = some piece) :
    piece <+: t := by
  fun_induction takeSize? n t generalizing piece with
  | case1 t =>
    cases h
    exact List.nil_prefix
  | case2 => cases h
  | case3 n c t hc ih =>
    obtain ⟨rest, hrest, rfl⟩ := Option.map_eq_some_iff.1 h
    exact (List.cons_prefix_cons).2 ⟨rfl, ih hrest⟩
  | case4 => cases h

theorem StartsAt.prefix_rest {front rest piece : Text}
    (h : StartsAt (front ++ rest) front.size piece) : piece <+: rest := by
  obtain ⟨stop, hs⟩ := h
  unfold Span.slice? at hs
  split at hs
  · rw [dropSize?_size_append] at hs
    exact prefix_of_takeSize? hs
  · cases hs

theorem prefix_takeWhile {p : Char → Bool} {piece t : Text} (h : piece <+: t)
    (hp : ∀ c ∈ piece, p c = true) : piece <+: t.takeWhile p := by
  obtain ⟨rest, rfl⟩ := h
  rw [List.takeWhile_append_of_pos hp]
  exact List.prefix_append _ _

end Text

namespace Token
open Text

/-! ### Classes -/

/-- The classes of tokens. Keywords and identifiers are one class, and so are the signs that are
always tokens of their own. -/
inductive Class
  | word
  | number
  | operator
  | string
  | quotedIdentifier
  | sign
deriving DecidableEq, Repr

/-- The texts of a class. -/
def Class.Contains : Class → Text → Prop
  | .word, t => IsWord t
  | .number, t => IsNumber t
  | .operator, t => t ∈ operators
  | .string, t => ∃ content, t = Quoted.write '\x27' content
  | .quotedIdentifier, t => ∃ content, content ≠ [] ∧ t = Quoted.write '\x22' content
  | .sign, t => ∃ k, (k, t) ∈ delimiters

/-- The class of a kind, which a malformed token and the end of a text do not have. -/
def Kind.class? : Kind → Option Class
  | .identifier _ | .keyword _ => some .word
  | .number _ => some .number
  | .operator _ => some .operator
  | .string _ => some .string
  | .quotedIdentifier _ => some .quotedIdentifier
  | .leftParen | .rightParen | .comma | .semicolon | .dot | .eq | .question | .colon => some .sign
  | .eof | .malformed _ => none

theorem Spells.contains {k : Kind} {raw : Text} (h : Spells k raw) :
    ∃ c, k.class? = some c ∧ c.Contains raw := by
  cases h with
  | number h => exact ⟨.number, rfl, h⟩
  | string content => exact ⟨.string, rfl, content, rfl⟩
  | identifier h => exact ⟨.word, rfl, h⟩
  | quotedIdentifier h => exact ⟨.quotedIdentifier, rfl, _, h, rfl⟩
  | keyword h => exact ⟨.word, rfl, isWord_of_spellsKeyword h⟩
  | delimiter h =>
    have hall : ∀ p ∈ delimiters, p.1.class? = some .sign := by decide
    exact ⟨.sign, hall _ h, k, h⟩
  | operator h => exact ⟨.operator, rfl, h⟩

/-! ### Words -/

theorem prefix_takeWord {c : Char} {t piece : Text} (hp : piece <+: c :: t) (h : IsWord piece) :
    piece <+: (takeWord c t).1.raw := by
  obtain ⟨d, rest, rfl, -, hrest⟩ := h
  obtain ⟨rfl, hr⟩ := List.cons_prefix_cons.1 hp
  exact List.cons_prefix_cons.2 ⟨rfl, prefix_takeWhile hr hrest⟩

/-! ### Numbers -/

theorem prefix_splitFraction {t piece : Text} (hp : piece <+: t) (h : IsFraction piece) :
    piece <+: (splitFraction t).1 := by
  rcases h with rfl | ⟨digits, rfl, hne, hdigits⟩
  · exact List.nil_prefix
  · obtain ⟨d, ds, rfl⟩ := List.exists_cons_of_ne_nil hne
    obtain ⟨rest, rfl⟩ := hp
    rw [AreDigits, List.forall_mem_cons] at hdigits
    have htake : ds <+: (ds ++ rest).takeWhile Char.isDigit :=
      prefix_takeWhile (List.prefix_append ds rest) hdigits.2
    simpa [splitFraction, hdigits.1, splitDigits, List.cons_prefix_cons] using htake

theorem prefix_splitExponent {t piece : Text} (hp : piece <+: t) (h : IsExponent piece) :
    piece <+: (splitExponent t).1 := by
  rcases h with rfl | ⟨e, sign, digits, rfl, he, hsign, hdigits⟩
  · exact List.nil_prefix
  · obtain ⟨rest, rfl⟩ := hp
    have hrest : sign ++ digits <+:
        (splitSign (sign ++ digits ++ rest)).1 ++
          (splitDigits (splitSign (sign ++ digits ++ rest)).2).1 := by
      by_cases hn : sign = [] ∧ digits = []
      · rw [hn.1, hn.2]
        exact List.nil_prefix
      · have hhead : sign = [] → ∀ c, (digits ++ rest).head? = some c → c.isDigit = true := by
          intro hs c hc
          obtain ⟨d, ds, rfl⟩ := List.exists_cons_of_ne_nil fun hd => hn ⟨hs, hd⟩
          cases hc
          exact hdigits _ List.mem_cons_self
        rw [List.append_assoc, splitSign_of_sign hsign hhead]
        exact (List.prefix_append_right_inj sign).2
          (prefix_takeWhile (List.prefix_append digits rest) hdigits)
    simpa [splitExponent, he, List.cons_prefix_cons] using hrest

/-- A number at the front of a text is taken, and perhaps more. -/
theorem prefix_takeNumber {t piece : Text} (hp : piece <+: t) (h : IsNumber piece) :
    piece <+: (takeNumber t).1.raw := by
  obtain ⟨whole, fraction, exponent, rfl, -, hwhole, hfraction, hexponent⟩ := h
  obtain ⟨rest, rfl⟩ := hp
  by_cases hn : fraction ++ exponent = []
  · rw [hn, List.append_nil]
    exact (prefix_takeWhile (List.prefix_append whole rest) hwhole).trans (List.prefix_append _ _)
  · -- Behind the digits in front something follows that is none, so they are all of them.
    have hhead : ∀ c, (fraction ++ exponent ++ rest).head? = some c → c.isDigit = false := by
      intro c hc
      rcases hfraction with rfl | ⟨digits, rfl, -⟩
      · rw [List.head?_append_of_ne_nil _ hn] at hc
        exact (hexponent.head_apart hc).1
      · cases hc
        decide
    have hcut : splitDigits (whole ++ (fraction ++ exponent) ++ rest) =
        (whole, fraction ++ exponent ++ rest) := by
      rw [List.append_assoc]
      exact splitDigits_of_areDigits hwhole hhead
    simp only [takeNumber, hcut]
    refine (List.prefix_append_right_inj whole).2 ?_
    by_cases he : exponent = []
    · rw [he, List.append_nil]
      exact (prefix_splitFraction (List.prefix_append fraction rest) hfraction).trans
        (List.prefix_append _ _)
    · have hapart : ∀ c, (exponent ++ rest).head? = some c → c.isDigit = false ∧ c ≠ '.' := by
        intro c hc
        rw [List.head?_append_of_ne_nil _ he] at hc
        exact hexponent.head_apart hc
      rw [List.append_assoc, splitFraction_of_isFraction hfraction hapart]
      exact (List.prefix_append_right_inj fraction).2
        (prefix_splitExponent (List.prefix_append exponent rest) hexponent)

/-! ### Operators -/

/-- Whether the rule of its first sign allows an operator. -/
def OperatorRule.allows (rule : OperatorRule) : Text → Bool
  | [] => rule.alone
  | [d] => d ∈ rule.seconds
  | _ => false

theorem of_mem_operators {c : Char} {rest : Text} (h : c :: rest ∈ operators) :
    ∃ rule, operatorRule? c = some rule ∧ rule.allows rest = true := by
  have hall : ∀ p ∈ operators,
      (p.head?.bind operatorRule?).any (fun rule => rule.allows p.tail) = true := by
    decide
  exact (Option.any_eq_true _ _).1 (hall _ h)

theorem delimiter?_of_operatorRule {c : Char} {rule : OperatorRule}
    (h : operatorRule? c = some rule) : delimiter? c = none := by
  unfold operatorRule? at h
  split at h <;> cases h <;> rfl

/-- Where a text begins with an operator, this operator or a longer one is taken. -/
theorem takeOperator_of_allows {rule : OperatorRule} {c : Char} {t rest : Text}
    (hp : rest <+: t) (h : rule.allows rest = true) :
    ∃ raw, (takeOperator rule c t).1 = ⟨.operator raw, raw⟩ ∧ c :: rest <+: raw := by
  fun_cases OperatorRule.allows rule rest with
  | case1 =>
    have halone : rule.alone = true := h
    have hlone : loneOperator rule c = ⟨.operator [c], [c]⟩ := by
      rw [loneOperator, if_pos halone]
    fun_cases takeOperator rule c t with
    | case1 d t => exact ⟨[c, d], rfl, [d], rfl⟩
    | case2 => exact ⟨[c], hlone, List.prefix_rfl⟩
    | case3 => exact ⟨[c], hlone, List.prefix_rfl⟩
  | case2 d =>
    obtain ⟨t, rfl⟩ := hp
    have hd : d ∈ rule.seconds := of_decide_eq_true h
    refine ⟨[c, d], ?_, List.prefix_rfl⟩
    rw [List.singleton_append, takeOperator, if_pos hd]
  | case3 => simp_all [OperatorRule.allows]

/-! ### Quoted texts -/

theorem prefix_of_read {mark : Char} {a b content rest : Text}
    (h : Quoted.read mark (Quoted.double mark a ++ b) = some (content, rest)) :
    a <+: content := by
  induction a generalizing content with
  | nil => exact List.nil_prefix
  | cons c a ih =>
    by_cases hc : c = mark
    · rw [Quoted.double, if_pos hc, List.cons_append, List.cons_append, Quoted.read, if_pos rfl,
        if_pos rfl] at h
      obtain ⟨⟨s, r⟩, hr, he⟩ := Option.map_eq_some_iff.1 h
      cases he
      exact List.cons_prefix_cons.2 ⟨hc, ih hr⟩
    · rw [Quoted.double, if_neg hc, List.cons_append] at h
      cases ht : Quoted.double mark a ++ b with
      | nil => simp [ht, Quoted.read, hc] at h
      | cons d t =>
        rw [ht, Quoted.read, if_neg hc, ← ht] at h
        obtain ⟨⟨s, r⟩, hr, he⟩ := Option.map_eq_some_iff.1 h
        cases he
        exact List.cons_prefix_cons.2 ⟨rfl, ih hr⟩

theorem double_append {mark : Char} (a b : Text) :
    Quoted.double mark (a ++ b) = Quoted.double mark a ++ Quoted.double mark b := by
  induction a with
  | nil => rfl
  | cons c a ih =>
    by_cases hc : c = mark
    · simp [Quoted.double, hc, ih]
    · simp [Quoted.double, hc, ih]

/-- A quoted text at the front of a text that is read is no longer than what is read. -/
theorem length_write_le {mark : Char} {t a content rest : Text}
    (h : Quoted.read mark t = some (content, rest)) (hp : Quoted.write mark a <+: mark :: t) :
    (Quoted.write mark a).length ≤ (Quoted.write mark content).length := by
  obtain ⟨b, rfl⟩ := (List.cons_prefix_cons.1 hp).2
  rw [List.append_assoc] at h
  obtain ⟨c, rfl⟩ := prefix_of_read h
  simp only [Quoted.write, double_append, List.length_cons, List.length_append]
  omega

/-- Nothing closes a quoted text if all marks behind the first come in pairs. -/
theorem eq_double_of_read_eq_none {mark : Char} {t : Text} (h : Quoted.read mark t = none) :
    ∃ content, t = Quoted.double mark content := by
  fun_induction Quoted.read mark t with
  | case1 => exact ⟨[], rfl⟩
  | case2 => cases h
  | case3 c hc => exact ⟨[c], by simp [Quoted.double, hc]⟩
  | case4 t ih =>
    obtain ⟨content, rfl⟩ := ih (Option.map_eq_none_iff.1 h)
    exact ⟨mark :: content, by simp [Quoted.double]⟩
  | case5 => cases h
  | case6 c d t hc ih =>
    obtain ⟨content, hcontent⟩ := ih (Option.map_eq_none_iff.1 h)
    exact ⟨c :: content, by simp [Quoted.double, hc, hcontent]⟩

/-! ### One lexeme -/

theorem take_of_operatorRule {c : Char} {rule : OperatorRule} (h : operatorRule? c = some rule)
    (t : Text) : take c t = takeOperator rule c t := by
  simp only [take, delimiter?_of_operatorRule h, h]

theorem delimiter?_of_mem {k : Kind} {piece : Text} (h : (k, piece) ∈ delimiters) :
    ∃ c, piece = [c] ∧ delimiter? c = some k := by
  have hall : ∀ p ∈ delimiters, p.2.length = 1 ∧ p.2.head?.bind delimiter? = some p.1 := by decide
  obtain ⟨hlength, hhead⟩ := hall _ h
  obtain ⟨c, rfl⟩ := List.length_eq_one_iff.1 hlength
  exact ⟨c, rfl, hhead⟩

theorem class?_wordKind (word : Text) : (wordKind word).class? = some .word := by
  unfold wordKind
  split <;> rfl

theorem take_of_delimiter {c : Char} {k : Kind} (h : delimiter? c = some k) (t : Text) :
    take c t = (⟨k, [c]⟩, t) := by
  simp only [take, h]

theorem class?_of_delimiter {c : Char} {k : Kind} (h : delimiter? c = some k) :
    k.class? = some .sign := by
  unfold delimiter? at h
  split at h <;> cases h <;> rfl

theorem take_string (t : Text) : take '\x27' t = takeString t := rfl

theorem take_quotedIdentifier (t : Text) : take '\x22' t = takeQuotedIdentifier t := rfl

/-- Where a text begins with a piece of some class, a lexeme of the class is taken that is no
shorter, unless the piece is the start of a quoted text that is malformed. -/
theorem take_of_contains {cl : Class} {c : Char} {t piece : Text} (hp : piece <+: c :: t)
    (h : cl.Contains piece) :
    ((take c t).1.kind.class? = some cl ∧ piece.length ≤ (take c t).1.raw.length) ∨
      ∃ m, (take c t).1.kind = .malformed m ∧ ∀ d, m ≠ .unexpected d := by
  cases cl with
  | word =>
    obtain ⟨d, rest, rfl, hd, -⟩ := id h
    obtain ⟨rfl, -⟩ := List.cons_prefix_cons.1 hp
    rw [take_of_isWordStart hd]
    exact .inl ⟨class?_wordKind _, (prefix_takeWord hp h).length_le⟩
  | number =>
    obtain ⟨whole, rest, exponent, hpiece, hne, hwhole, -⟩ := id h
    obtain ⟨d, ds, rfl⟩ := List.exists_cons_of_ne_nil hne
    obtain rfl : d = c := by
      rw [hpiece] at hp
      exact (List.cons_prefix_cons.1 hp).1
    rw [take_of_isDigit (hwhole _ List.mem_cons_self)]
    exact .inl ⟨rfl, (prefix_takeNumber hp h).length_le⟩
  | operator =>
    have hne : piece ≠ [] := by
      rintro rfl
      change [] ∈ operators at h
      exact absurd h (by decide)
    obtain ⟨d, rest, rfl⟩ := List.exists_cons_of_ne_nil hne
    obtain ⟨rfl, hrest⟩ := List.cons_prefix_cons.1 hp
    obtain ⟨rule, hrule, hallows⟩ := of_mem_operators h
    obtain ⟨raw, hraw, hpre⟩ := takeOperator_of_allows (c := d) hrest hallows
    rw [take_of_operatorRule hrule, hraw]
    exact .inl ⟨rfl, hpre.length_le⟩
  | string =>
    obtain ⟨content, rfl⟩ := h
    obtain ⟨rfl, -⟩ := List.cons_prefix_cons.1 hp
    rw [take_string]
    fun_cases takeString t with
    | case1 whole rest hr => exact .inl ⟨rfl, length_write_le hr hp⟩
    | case2 => exact .inr ⟨.openString, rfl, by simp⟩
  | quotedIdentifier =>
    obtain ⟨content, -, rfl⟩ := h
    obtain ⟨rfl, -⟩ := List.cons_prefix_cons.1 hp
    rw [take_quotedIdentifier]
    fun_cases takeQuotedIdentifier t with
    | case1 whole rest hr =>
      cases whole with
      | nil => exact .inr ⟨.emptyIdentifier, rfl, by simp⟩
      | cons d whole => exact .inl ⟨rfl, length_write_le hr hp⟩
    | case2 => exact .inr ⟨.openIdentifier, rfl, by simp⟩
  | sign =>
    obtain ⟨k, hk⟩ := h
    obtain ⟨d, rfl, hd⟩ := delimiter?_of_mem hk
    obtain ⟨rfl, -⟩ := List.cons_prefix_cons.1 hp
    rw [take_of_delimiter hd]
    exact .inl ⟨class?_of_delimiter hd, le_rfl⟩

/-- What is taken is the longest piece of its class. -/
theorem length_le_take {cl : Class} {c : Char} {t piece : Text}
    (hcl : (take c t).1.kind.class? = some cl) (hp : piece <+: c :: t) (h : cl.Contains piece) :
    piece.length ≤ (take c t).1.raw.length := by
  rcases take_of_contains hp h with ⟨-, hle⟩ | ⟨m, hm, -⟩
  · exact hle
  · rw [hm] at hcl
    cases hcl

/-- Where a character is unexpected, there is no piece of any class. -/
theorem not_contains_of_unexpected {c d : Char} {t piece : Text}
    (hk : (take c t).1.kind = .malformed (.unexpected d)) (hp : piece <+: c :: t) (cl : Class) :
    ¬ cl.Contains piece := by
  intro h
  rcases take_of_contains hp h with ⟨hcl, -⟩ | ⟨m, hm, hne⟩
  · rw [hk] at hcl
    cases hcl
  · rw [hk] at hm
    cases hm
    exact hne d rfl

/-! ### The tokens of a text -/

/-- What stands in a text where one of its tokens is malformed. -/
inductive IsFault (t : Text) (u : Token) : Malformed → Prop
  | openString (content : Text) : u.raw = '\x27' :: Quoted.double '\x27' content →
      u.stop = t.size → IsFault t u .openString
  | openIdentifier (content : Text) : u.raw = '\x22' :: Quoted.double '\x22' content →
      u.stop = t.size → IsFault t u .openIdentifier
  | emptyIdentifier : u.raw = ['\x22', '\x22'] → IsFault t u .emptyIdentifier
  | unexpected {c : Char} : u.raw = [c] →
      (∀ piece, StartsAt t u.start piece → ∀ cl : Class, ¬ cl.Contains piece) →
      IsFault t u (.unexpected c)

theorem eq_unexpected_of_loneOperator {rule : OperatorRule} {c : Char} {m : Malformed}
    (h : (loneOperator rule c).kind = .malformed m) : m = .unexpected c := by
  unfold loneOperator at h
  cases ha : rule.alone with
  | false => simpa [ha, eq_comm] using h
  | true => simp [ha] at h

section
variable (before : Text) {t : Text} {m : Malformed}

theorem isFault_takeString (h : (takeString t).1.kind = .malformed m) :
    IsFault (before ++ '\x27' :: t)
      ⟨(takeString t).1.kind, (takeString t).1.raw, before.size⟩ m := by
  revert h
  fun_cases takeString t with
  | case1 =>
    intro h
    cases h
  | case2 hr =>
    rintro ⟨⟩
    obtain ⟨content, hcontent⟩ := eq_double_of_read_eq_none hr
    exact .openString content (congrArg _ hcontent) (size_append _ _).symm

theorem isFault_takeQuotedIdentifier (h : (takeQuotedIdentifier t).1.kind = .malformed m) :
    IsFault (before ++ '\x22' :: t)
      ⟨(takeQuotedIdentifier t).1.kind, (takeQuotedIdentifier t).1.raw, before.size⟩ m := by
  revert h
  fun_cases takeQuotedIdentifier t with
  | case1 content rest =>
    cases content with
    | nil =>
      rintro ⟨⟩
      exact .emptyIdentifier rfl
    | cons =>
      intro h
      cases h
  | case2 hr =>
    rintro ⟨⟩
    obtain ⟨content, hcontent⟩ := eq_double_of_read_eq_none hr
    exact .openIdentifier content (congrArg _ hcontent) (size_append _ _).symm

theorem isFault_take {c : Char} (h : (take c t).1.kind = .malformed m) :
    IsFault (before ++ c :: t) ⟨(take c t).1.kind, (take c t).1.raw, before.size⟩ m := by
  have hnone (d : Char) (hd : (take c t).1.kind = .malformed (.unexpected d)) (piece : Text)
      (hs : StartsAt (before ++ c :: t) before.size piece) (cl : Class) : ¬ cl.Contains piece :=
    not_contains_of_unexpected hd hs.prefix_rest cl
  revert h hnone
  fun_cases take c t with
  | case1 k hk =>
    rintro rfl
    cases class?_of_delimiter hk
  | case2 _ rule =>
    fun_cases takeOperator rule c t with
    | case1 =>
      intro h
      cases h
    | case2 =>
      intro h hnone
      obtain rfl := eq_unexpected_of_loneOperator h
      exact .unexpected rfl (hnone c h)
    | case3 =>
      intro h hnone
      obtain rfl := eq_unexpected_of_loneOperator h
      exact .unexpected rfl (hnone c h)
  | case3 _ _ hc =>
    subst hc
    exact fun h _ => isFault_takeString before h
  | case4 _ _ _ hc =>
    subst hc
    exact fun h _ => isFault_takeQuotedIdentifier before h
  | case5 =>
    intro h
    cases h
  | case6 =>
    intro h
    have hcl := class?_wordKind (c :: t.takeWhile isWordPart)
    change wordKind _ = _ at h
    rw [h] at hcl
    cases hcl
  | case7 =>
    rintro ⟨⟩ hnone
    exact .unexpected rfl (hnone c rfl)

end

/-- A token covers what it was read from. It is spelled as its kind says and no longer piece that
starts there is of its class, or it is malformed. -/
theorem classified_of_mem_tokens (sql : Text) {u : Token} (hu : u ∈ tokens sql)
    (hend : u.kind ≠ .eof) :
    u.span.slice? sql = some u.raw ∧
      ((∃ cl, u.kind.class? = some cl ∧ Spells u.kind u.raw ∧ cl.Contains u.raw ∧
          ∀ piece, StartsAt sql u.start piece → cl.Contains piece →
            piece.length ≤ u.raw.length) ∨
        ∃ m, u.kind = .malformed m ∧ IsFault sql u m) := by
  have hm : u ∈ lexemes sql := by
    rcases List.mem_append.1 hu with h | h
    · exact h
    · rw [List.mem_singleton.1 h] at hend
      exact absurd rfl hend
  obtain ⟨before, c, t, rfl, rfl⟩ := Cursor.exists_take_of_mem_lexemes hm
  simp only [Nat.zero_add]
  refine ⟨?_, ?_⟩
  · rw [← take_append c t]
    exact Span.slice?_append _ _ _
  · by_cases hf : ∃ m, (take c t).1.kind = .malformed m
    · obtain ⟨m, hm⟩ := hf
      exact .inr ⟨m, hm, isFault_take before hm⟩
    · have hs : Spells (take c t).1.kind (take c t).1.raw :=
        spells_take fun m hm => hf ⟨m, hm⟩
      obtain ⟨cl, hcl, hraw⟩ := hs.contains
      exact .inl ⟨cl, hcl, hs, hraw, fun piece hp hc => length_le_take hcl hp.prefix_rest hc⟩

/-- The number in `a<=1.5e+^1` takes its exponent's sign and no more, and `^` starts nothing. -/
theorem classified_of_mem_tokens_number :
    let sql := "a<=1.5e+^1".toList
    let number : Token := ⟨.number "1.5e+".toList, "1.5e+".toList, 3⟩
    let caret : Token := ⟨.malformed (.unexpected '^'), ['^'], 8⟩
    (number ∈ tokens sql ∧ number.kind ≠ .eof ∧
      ∀ piece, StartsAt sql 3 piece → IsNumber piece → piece.length ≤ 5) ∧
    (caret ∈ tokens sql ∧ caret.kind ≠ .eof ∧
      ∀ piece, StartsAt sql 8 piece → ∀ cl : Class, ¬ cl.Contains piece) := by
  intro sql number caret
  have hnumber : number ∈ tokens sql := by decide +kernel
  have hcaret : caret ∈ tokens sql := by decide +kernel
  have hnumber' : number.kind ≠ .eof := by decide
  have hcaret' : caret.kind ≠ .eof := by decide
  refine ⟨⟨hnumber, hnumber', ?_⟩, hcaret, hcaret', ?_⟩
  · rcases (classified_of_mem_tokens sql hnumber hnumber').2 with
      ⟨cl, hcl, -, -, hmax⟩ | ⟨m, hm, -⟩
    · cases hcl
      exact hmax
    · cases hm
  · rcases (classified_of_mem_tokens sql hcaret hcaret').2 with ⟨cl, hcl, -⟩ | ⟨m, hm, hfault⟩
    · cases hcl
    · cases hm
      cases hfault with
      | unexpected _ hnone => exact hnone

end Token
end GeneratedKeys
