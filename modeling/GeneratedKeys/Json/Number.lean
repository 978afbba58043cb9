import GeneratedKeys.Text.Decimal

/-!
# Numbers in documents

A number is kept as written, in its parts. It can be read as a 32-bit whole number if it is plain
digits, and it can be asked whether its value lies within the range of double precision.
-/
namespace GeneratedKeys

/-- A written number: digits, perhaps digits after a point, perhaps an exponent with its sign. -/
structure Json.Number where
  negative : Bool
  whole : Text
  fraction : Option Text
  exponent : Option (Bool × Text)
deriving DecidableEq, Repr

namespace Json.Number

/-- The number as a 32-bit signed whole number. Minus zero is none. -/
def toInt32? (n : Number) : Option Int :=
  let size := Text.digitsValue n.whole
  let value : Int := if n.negative then -size else size
  if n.fraction.isNone && n.exponent.isNone && !(n.negative && size == 0) && Text.isInt32 value then
    some value
  else none

/-! ### The range of double precision

The leading digits are gathered into a significand of 64 bits, and the digits that do not fit are
dropped. The significand is rounded to 53 bits and multiplied by a power of ten that is rounded to
53 bits itself; only a product that reaches 2 ^ 1024 after rounding is out of range. -/

/-- A significand, times ten to an exponent. `full` says that a digit has been dropped. -/
structure Scaled where
  significand : Nat
  exponent : Int
  full : Bool
deriving DecidableEq, Repr

/-- Whether a significand with one more digit still fits 64 bits. -/
def fitsDigit (significand : Nat) (c : Char) : Bool :=
  Text.digitsValue [c] + 10 * significand < Nat.pow 2 64

/-- Gathers the digits before the point; one that is dropped leaves a factor of ten. -/
def gatherWhole (s : Scaled) : Text → Scaled
  | [] => s
  | c :: t =>
    if !s.full && fitsDigit s.significand c then
      gatherWhole { s with significand := Text.digitsValue [c] + 10 * s.significand } t
    else gatherWhole { s with exponent := s.exponent + 1, full := true } t

/-- Gathers the digits after the point, up to the first that does not fit. -/
def gatherFraction (s : Scaled) : Text → Scaled
  | [] => s
  | c :: t =>
    if fitsDigit s.significand c then
      gatherFraction
        { s with
          significand := Text.digitsValue [c] + 10 * s.significand
          exponent := s.exponent - 1 } t
    else s

/-- A natural number rounded to 53 significant bits, ties to even. -/
def round53 (n : Nat) : Nat :=
  let excess := n.log2 + 1 - 53
  let unit := Nat.pow 2 excess
  let kept := n / unit
  let rest := n % unit
  if 2 * rest > unit || (2 * rest == unit && kept % 2 == 1) then (kept + 1) * unit
  else kept * unit

/-- Whether a significand times ten to an exponent stays below 2 ^ 1024 when rounded. -/
def Scaled.inRange (s : Scaled) : Bool :=
  if s.significand = 0 || s.exponent < 0 then true
  else if 308 < s.exponent then false
  else round53 (round53 s.significand * round53 (Nat.pow 10 s.exponent.toNat)) < Nat.pow 2 1024

/-- Whether the value of a number lies within the range of double precision. An exponent beyond 32
bits decides by its sign alone. -/
def inRange (n : Number) : Bool :=
  let gathered := gatherFraction (gatherWhole ⟨0, 0, false⟩ n.whole) (n.fraction.getD [])
  match n.exponent with
  | none => gathered.inRange
  | some (negative, digits) =>
    let size := Text.digitsValue digits
    if 2147483647 < size then negative || gathered.significand == 0
    else
      let shift : Int := if negative then -size else size
      { gathered with exponent := gathered.exponent + shift }.inRange

end Json.Number
end GeneratedKeys
