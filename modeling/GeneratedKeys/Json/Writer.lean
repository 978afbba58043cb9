import GeneratedKeys.Json.Basic

/-!
# Writing strings

A string is written between double quotes. Quotes, backslashes and control characters below the
space are escaped, by one letter where there is one, and all else stands as it is.
-/
namespace GeneratedKeys.Json

/-- A digit of a code point below 256, in lower-case hexadecimal. -/
def hexDigit (n : Nat) : Char :=
  Nat.digitChar n

/-- A character as it stands in a written string. -/
def writeChar (c : Char) : Text :=
  match c with
  | '\x22' => ['\x5c', '\x22']
  | '\x5c' => ['\x5c', '\x5c']
  | '\x08' => ['\x5c', 'b']
  | '\x0c' => ['\x5c', 'f']
  | '\x0a' => ['\x5c', 'n']
  | '\x0d' => ['\x5c', 'r']
  | '\x09' => ['\x5c', 't']
  | c =>
    if c < ' ' then
      ['\x5c', 'u', '0', '0', hexDigit (c.toNat / 16), hexDigit (c.toNat % 16)]
    else [c]

def writeString (t : Text) : Text :=
  '\x22' :: (t.flatMap writeChar ++ ['\x22'])

end GeneratedKeys.Json
