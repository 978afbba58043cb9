import GeneratedKeys.Json.Basic
import GeneratedKeys.Text.Hexadecimal

/-!
# The pieces of a written document

A written document is a sequence of signs, words, strings and numbers with space between them.
-/
namespace GeneratedKeys.Json

inductive Piece
  | openArray
  | closeArray
  | openObject
  | closeObject
  | comma
  | colon
  | null
  | bool (b : Bool)
  | number (n : Number)
  | string (s : Option Text)
deriving DecidableEq, Repr

namespace Piece

def isSpace (c : Char) : Bool :=
  c == ' ' || c == '\x09' || c == '\x0a' || c == '\x0d'

/-! ### Strings -/

def hexValue? (a b c d : Char) : Option Nat := do
  let high := (← Text.hexDigit? a) * 16 + (← Text.hexDigit? b)
  let low := (← Text.hexDigit? c) * 16 + (← Text.hexDigit? d)
  return high * 256 + low

/-- The character that an escape of one letter stands for. -/
def shortEscape? : Char → Option Char
  | '\x22' => some '\x22'
  | '\x5c' => some '\x5c'
  | '/' => some '/'
  | 'b' => some '\x08'
  | 'f' => some '\x0c'
  | 'n' => some '\x0a'
  | 'r' => some '\x0d'
  | 't' => some '\x09'
  | _ => none

/-- Reads a string whose opening quote has been read, as code points among which there may be
surrogates, and what follows the closing quote. -/
def codePoints? : Text → Option (List Nat × Text)
  | [] => none
  | '\x22' :: t => some ([], t)
  | '\x5c' :: 'u' :: a :: b :: c :: d :: t =>
    match hexValue? a b c d with
    | some n => (codePoints? t).map fun p => (n :: p.1, p.2)
    | none => none
  | '\x5c' :: e :: t =>
    match shortEscape? e with
    | some c => (codePoints? t).map fun p => (c.toNat :: p.1, p.2)
    | none => none
  | c :: t => if c < ' ' then none else (codePoints? t).map fun p => (c.toNat :: p.1, p.2)

/-- Whether a code point is the first half of a surrogate pair. -/
def isHigh (n : Nat) : Bool :=
  0xd800 ≤ n && n < 0xdc00

/-- Whether a code point is the second half of a surrogate pair. -/
def isLow (n : Nat) : Bool :=
  0xdc00 ≤ n && n < 0xe000

/-- The text that code points stand for, if every surrogate is half of a pair. -/
def textOfCodePoints? : List Nat → Option Text
  | [] => some []
  | [n] => if isHigh n || isLow n then none else some [Char.ofNat n]
  | n :: m :: rest =>
    if isHigh n then
      if isLow m then
        (textOfCodePoints? rest).map
          (Char.ofNat (0x10000 + (n - 0xd800) * 0x400 + (m - 0xdc00)) :: ·)
      else none
    else if isLow n then none
    else (textOfCodePoints? (m :: rest)).map (Char.ofNat n :: ·)

/-! ### Numbers -/

/-- Cuts at least one digit off the front of a text. -/
def digits? (t : Text) : Option (Text × Text) :=
  let digits := t.takeWhile Char.isDigit
  if digits.isEmpty then none else some (digits, t.dropWhile Char.isDigit)

/-- Reads the digits before the point: a zero alone, or digits that do not start with one. -/
def whole? : Text → Option (Text × Text)
  | '0' :: t => if (t.head?.map Char.isDigit).getD false then none else some (['0'], t)
  | t => digits? t

/-- Reads a point and digits, or nothing. -/
def fraction? : Text → Option (Option Text × Text)
  | '.' :: t => (digits? t).map fun p => (some p.1, p.2)
  | t => some (none, t)

def exponent? : Text → Option (Option (Bool × Text) × Text)
  | c :: t =>
    if c = 'e' ∨ c = 'E' then
      match t with
      | '-' :: t => (digits? t).map fun p => (some (true, p.1), p.2)
      | '+' :: t => (digits? t).map fun p => (some (false, p.1), p.2)
      | t => (digits? t).map fun p => (some (false, p.1), p.2)
    else some (none, c :: t)
  | [] => some (none, [])

def unsigned? (negative : Bool) (t : Text) : Option (Number × Text) := do
  let (whole, t) ← whole? t
  let (fraction, t) ← fraction? t
  let (exponent, t) ← exponent? t
  return (⟨negative, whole, fraction, exponent⟩, t)

def number? : Text → Option (Number × Text)
  | '-' :: t => unsigned? true t
  | t => unsigned? false t

/-! ### Pieces -/

/-- Reads the rest of a word whose first letter has been read. -/
def word? (p : Piece) (letters : String) (t : Text) : Option (Piece × Text) :=
  (letters.toList.isPrefixOf? t).map fun rest => (p, rest)

/-- Reads the piece that starts with `c`. -/
def take? (c : Char) (t : Text) : Option (Piece × Text) :=
  match c with
  | '[' => some (.openArray, t)
  | ']' => some (.closeArray, t)
  | '\x7b' => some (.openObject, t)
  | '\x7d' => some (.closeObject, t)
  | ',' => some (.comma, t)
  | ':' => some (.colon, t)
  | 'n' => word? .null "ull" t
  | 't' => word? (.bool true) "rue" t
  | 'f' => word? (.bool false) "alse" t
  | '\x22' => (codePoints? t).map fun p => (.string (textOfCodePoints? p.1), p.2)
  | c => (number? (c :: t)).map fun p => (.number p.1, p.2)

/-- Reads pieces until the text ends. Every piece takes at least one character, so `fuel` need not
exceed the length of the text. -/
def allWithin? : Nat → Text → Option (List Piece)
  | fuel, t =>
    match t.dropWhile isSpace with
    | [] => some []
    | c :: t =>
      match fuel with
      | 0 => none
      | fuel + 1 =>
        match take? c t with
        | some (p, rest) => (allWithin? fuel rest).map (p :: ·)
        | none => none

def all? (t : Text) : Option (List Piece) :=
  allWithin? t.length t

end Piece
end GeneratedKeys.Json
