import GeneratedKeys.Text.Ranges

/-!
# Blank characters

The characters with the Unicode property White_Space (Unicode 17.0), and cutting them off the
ends of a text.
-/
namespace GeneratedKeys.Text

def blankRanges : Ranges := [
  (0x9, 0xd), (0x20, 0x20), (0x85, 0x85), (0xa0, 0xa0), (0x1680, 0x1680), (0x2000, 0x200a),
  (0x2028, 0x2029), (0x202f, 0x202f), (0x205f, 0x205f), (0x3000, 0x3000)]

def isBlank (c : Char) : Bool :=
  blankRanges.holds c.toNat

/-- A text without the blanks at its end. -/
def trimEnd (t : Text) : Text :=
  (t.reverse.dropWhile isBlank).reverse

def trim (t : Text) : Text :=
  trimEnd (t.dropWhile isBlank)

end GeneratedKeys.Text
