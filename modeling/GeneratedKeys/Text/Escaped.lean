import GeneratedKeys.Text.Extending
import GeneratedKeys.Text.Unprintable

/-!
# Escaped text

A text shown between double quotes on one line of a message. Quotes, backslashes, the common
control characters and everything that would not be seen are written as escapes.
-/
namespace GeneratedKeys.Text

/-- The escape of a character by its code point, in lower-case hexadecimal digits. -/
def codePointEscape (c : Char) : Text :=
  ['\x5c', 'u', '\x7b'] ++ Nat.toDigits 16 c.toNat ++ ['\x7d']

/-- A character as it is shown in a message. -/
def escapeChar (c : Char) : Text :=
  match c with
  | '\x00' => ['\x5c', '0']
  | '\x09' => ['\x5c', 't']
  | '\x0d' => ['\x5c', 'r']
  | '\x0a' => ['\x5c', 'n']
  | '\x5c' => ['\x5c', '\x5c']
  | '\x22' => ['\x5c', '\x22']
  | c => if isExtending c || isUnprintable c then codePointEscape c else [c]

/-- A text as it is shown in a message, between double quotes. -/
def escaped (t : Text) : Text :=
  '\x22' :: (t.flatMap escapeChar ++ ['\x22'])

end GeneratedKeys.Text
