import GeneratedKeys.Text.Basic

/-!
# Decimal numbers

Whole numbers written with decimal digits, and the range of a 32-bit signed number.
-/
namespace GeneratedKeys.Text

/-- A natural number in decimal digits, without leading zeros. -/
def ofNat (n : Nat) : Text :=
  Nat.toDigits 10 n

/-- A whole number in decimal digits, with a minus sign if it is negative. -/
def ofInt (n : Int) : Text :=
  if n < 0 then '-' :: ofNat n.natAbs else ofNat n.natAbs

/-- The number that decimal digits stand for. -/
def digitsValue (digits : Text) : Nat :=
  Nat.ofDigitChars 10 digits 0

/-- Whether a whole number is a 32-bit signed one. -/
def isInt32 (n : Int) : Bool :=
  -2147483648 ≤ n && n ≤ 2147483647

/-- The number written by digits with a sign that may be missing, if it is a 32-bit signed one. -/
def toInt32? (t : Text) : Option Int :=
  let value (negative : Bool) (digits : Text) : Option Int :=
    let n : Int := digitsValue digits
    let n := if negative then -n else n
    if !digits.isEmpty && digits.all Char.isDigit && isInt32 n then some n else none
  match t with
  | '-' :: digits => value true digits
  | '+' :: digits => value false digits
  | digits => value false digits

end GeneratedKeys.Text
