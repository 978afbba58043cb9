import GeneratedKeys.Text.Alphabetic
import GeneratedKeys.Text.Numeric
import GeneratedKeys.Text.Quoted
import GeneratedKeys.Token.Basic
import GeneratedKeys.Token.Layout

/-!
# Cutting a text into tokens

A cursor stands at a byte offset of a text and holds what is still to be read. Each step skips the
layout in front of the next token and takes the longest token that starts there; at the end it
answers with an empty token of kind `eof`, however often it is asked. A piece of text that is no
token is answered as a malformed one, and reading goes on after it.
-/
namespace GeneratedKeys.Token

/-- A token's kind and text, wherever it stands. -/
structure Lexeme where
  kind : Kind
  raw : Text
deriving DecidableEq, Repr

def isWordStart (c : Char) : Bool :=
  Text.isAlphabetic c || c == '_'

def isWordPart (c : Char) : Bool :=
  Text.isAlphabetic c || Text.isNumeric c || c == '_' || c == '$'

/-- The kind of a sign that is always a token of its own. -/
def delimiter? : Char → Option Kind
  | '(' => some .leftParen
  | ')' => some .rightParen
  | ',' => some .comma
  | ';' => some .semicolon
  | '.' => some .dot
  | '=' => some .eq
  | '?' => some .question
  | ':' => some .colon
  | _ => none

/-- The operators that start with a sign: whether it is one alone, and what can follow it. -/
structure OperatorRule where
  alone : Bool
  seconds : List Char
deriving DecidableEq, Repr

/-- The rule of a sign that starts operators. -/
def operatorRule? : Char → Option OperatorRule
  | '+' | '-' | '*' | '/' | '%' => some ⟨true, []⟩
  | '<' => some ⟨true, ['=', '>']⟩
  | '>' => some ⟨true, ['=']⟩
  | '|' => some ⟨true, ['|']⟩
  | '!' | '^' | '~' => some ⟨false, ['=', '<', '>']⟩
  | _ => none

/-- An operator of one sign, or no token if the sign needs a second one. -/
def loneOperator (rule : OperatorRule) (c : Char) : Lexeme :=
  ⟨if rule.alone then .operator [c] else .malformed (.unexpected c), [c]⟩

/-- Takes an operator that starts with `c`, and its second sign if it is next. -/
def takeOperator (rule : OperatorRule) (c : Char) : Text → Lexeme × Text
  | d :: t =>
    if d ∈ rule.seconds then (⟨.operator [c, d], [c, d]⟩, t) else (loneOperator rule c, d :: t)
  | [] => (loneOperator rule c, [])

/-- Takes a string whose opening mark has been read. -/
def takeString (t : Text) : Lexeme × Text :=
  match Text.Quoted.read '\x27' t with
  | some (content, rest) => (⟨.string content, Text.Quoted.write '\x27' content⟩, rest)
  | none => (⟨.malformed .openString, '\x27' :: t⟩, [])

/-- Takes a quoted identifier whose opening mark has been read. -/
def takeQuotedIdentifier (t : Text) : Lexeme × Text :=
  match Text.Quoted.read '\x22' t with
  | some (content, rest) =>
    (⟨if content.isEmpty then .malformed .emptyIdentifier else .quotedIdentifier content,
      Text.Quoted.write '\x22' content⟩, rest)
  | none => (⟨.malformed .openIdentifier, '\x22' :: t⟩, [])

def splitDigits (t : Text) : Text × Text :=
  (t.takeWhile Char.isDigit, t.dropWhile Char.isDigit)

/-- Cuts a fraction off: a point with at least one digit after it, or nothing. -/
def splitFraction : Text → Text × Text
  | '.' :: d :: t =>
    if d.isDigit then ('.' :: d :: (splitDigits t).1, (splitDigits t).2) else ([], '.' :: d :: t)
  | t => ([], t)

def splitSign : Text → Text × Text
  | c :: t => if c = '+' ∨ c = '-' then ([c], t) else ([], c :: t)
  | [] => ([], [])

/-- Cuts an exponent off: a letter E, a sign that may be missing and digits that may be missing;
or nothing. -/
def splitExponent : Text → Text × Text
  | c :: t =>
    if c = 'e' ∨ c = 'E' then
      let sign := splitSign t
      let digits := splitDigits sign.2
      (c :: (sign.1 ++ digits.1), digits.2)
    else ([], c :: t)
  | [] => ([], [])

/-- Takes a number: digits, a fraction and an exponent. -/
def takeNumber (t : Text) : Lexeme × Text :=
  let whole := splitDigits t
  let fraction := splitFraction whole.2
  let exponent := splitExponent fraction.2
  let raw := whole.1 ++ (fraction.1 ++ exponent.1)
  (⟨.number raw, raw⟩, exponent.2)

/-- The kind of a word: a keyword if it spells one, otherwise an identifier. -/
def wordKind (word : Text) : Kind :=
  match Keyword.ofText? word with
  | some k => .keyword k
  | none => .identifier word

def takeWord (c : Char) (t : Text) : Lexeme × Text :=
  let word := c :: t.takeWhile isWordPart
  (⟨wordKind word, word⟩, t.dropWhile isWordPart)

/-- Takes the lexeme that starts with `c` off the front of a text. -/
def take (c : Char) (t : Text) : Lexeme × Text :=
  match delimiter? c with
  | some kind => (⟨kind, [c]⟩, t)
  | none =>
    match operatorRule? c with
    | some rule => takeOperator rule c t
    | none =>
      if c = '\x27' then takeString t
      else if c = '\x22' then takeQuotedIdentifier t
      else if c.isDigit then takeNumber (c :: t)
      else if isWordStart c then takeWord c t
      else (⟨.malformed (.unexpected c), [c]⟩, t)

/-! ### Nothing is lost by taking a lexeme -/

theorem takeOperator_append (rule : OperatorRule) (c : Char) (t : Text) :
    (takeOperator rule c t).1.raw ++ (takeOperator rule c t).2 = c :: t := by
  fun_cases takeOperator rule c t <;> simp [loneOperator]

theorem takeString_append (t : Text) :
    (takeString t).1.raw ++ (takeString t).2 = '\x27' :: t := by
  fun_cases takeString t with
  | case1 content rest h => simp [Text.Quoted.write, Text.Quoted.eq_of_read h]
  | case2 => simp

theorem takeQuotedIdentifier_append (t : Text) :
    (takeQuotedIdentifier t).1.raw ++ (takeQuotedIdentifier t).2 = '\x22' :: t := by
  fun_cases takeQuotedIdentifier t with
  | case1 content rest h => simp [Text.Quoted.write, Text.Quoted.eq_of_read h]
  | case2 => simp

theorem splitDigits_append (t : Text) : (splitDigits t).1 ++ (splitDigits t).2 = t := by
  simp [splitDigits]

theorem splitFraction_append (t : Text) : (splitFraction t).1 ++ (splitFraction t).2 = t := by
  fun_cases splitFraction t <;> simp [splitDigits]

theorem splitSign_append (t : Text) : (splitSign t).1 ++ (splitSign t).2 = t := by
  fun_cases splitSign t <;> simp

theorem splitExponent_append (t : Text) : (splitExponent t).1 ++ (splitExponent t).2 = t := by
  fun_cases splitExponent t with
  | case1 c t hc sign digits =>
    simp only [List.cons_append, List.append_assoc]
    rw [splitDigits_append, splitSign_append]
  | case2 => simp
  | case3 => simp

theorem takeNumber_append (t : Text) : (takeNumber t).1.raw ++ (takeNumber t).2 = t := by
  simp only [takeNumber, List.append_assoc]
  rw [splitExponent_append, splitFraction_append, splitDigits_append]

theorem takeWord_append (c : Char) (t : Text) :
    (takeWord c t).1.raw ++ (takeWord c t).2 = c :: t := by
  simp [takeWord]

/-- A lexeme and what follows it make up the text it was taken from. -/
theorem take_append (c : Char) (t : Text) : (take c t).1.raw ++ (take c t).2 = c :: t := by
  fun_cases take c t with
  | case1 => simp
  | case2 _ rule => exact takeOperator_append rule c t
  | case3 _ _ hc => exact hc ▸ takeString_append t
  | case4 _ _ _ hc => exact hc ▸ takeQuotedIdentifier_append t
  | case5 => exact takeNumber_append (c :: t)
  | case6 => exact takeWord_append c t
  | case7 => simp

theorem takeNumber_raw_ne_nil {c : Char} (h : c.isDigit = true) (t : Text) :
    (takeNumber (c :: t)).1.raw ≠ [] := by
  simp [takeNumber, splitDigits, h]

theorem take_raw_ne_nil (c : Char) (t : Text) : (take c t).1.raw ≠ [] := by
  fun_cases take c t with
  | case1 => simp
  | case2 _ rule => fun_cases takeOperator rule c t <;> simp [loneOperator]
  | case3 => fun_cases takeString t <;> simp [Text.Quoted.write]
  | case4 => fun_cases takeQuotedIdentifier t <;> simp [Text.Quoted.write]
  | case5 _ _ _ _ h => exact takeNumber_raw_ne_nil h t
  | case6 => simp [takeWord]
  | case7 => simp

/-- A place in a text, and the text from there on. -/
structure Cursor where
  rest : Text
  offset : Nat
deriving DecidableEq, Repr

namespace Cursor

def ofText (t : Text) : Cursor :=
  ⟨t, 0⟩

/-- The next token, and the place after it. -/
def next (c : Cursor) : Token × Cursor :=
  let cut := Layout.split .blank c.rest
  let start := c.offset + cut.1.size
  match cut.2 with
  | [] => (⟨.eof, [], start⟩, ⟨[], start⟩)
  | d :: t =>
    let taken := take d t
    (⟨taken.1.kind, taken.1.raw, start⟩, ⟨taken.2, start + taken.1.raw.size⟩)

/-- A token takes at least one character. -/
theorem next_length_lt {c : Cursor} (h : c.next.1.kind ≠ .eof) :
    c.next.2.rest.length < c.rest.length := by
  have hcut := Layout.split_length_le .blank c.rest
  revert h
  fun_cases next c with
  | case1 => simp
  | case2 cut start d t hrest taken =>
    intro _
    change (take d t).2.length < c.rest.length
    have happ := congrArg List.length (take_append d t)
    have hpos := take_raw_ne_nil d t
    rw [hrest] at hcut
    simp only [List.length_append, List.length_cons] at happ hcut
    have : 0 < (take d t).1.raw.length := List.length_pos_iff.2 hpos
    omega

/-- The tokens from a place on, without the one that marks the end. -/
def lexemes (c : Cursor) : List Token :=
  let step := c.next
  if step.1.kind = .eof then [] else step.1 :: step.2.lexemes
termination_by c.rest.length
decreasing_by exact next_length_lt ‹_›

end Cursor

/-- The tokens of a text, without the one that marks the end. -/
def lexemes (t : Text) : List Token :=
  (Cursor.ofText t).lexemes

/-- The empty token at the end of a text. -/
def atEnd (t : Text) : Token :=
  ⟨.eof, [], t.size⟩

/-- The tokens of a text, the last of which marks the end. -/
def tokens (t : Text) : List Token :=
  lexemes t ++ [atEnd t]

end GeneratedKeys.Token
