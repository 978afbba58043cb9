import GeneratedKeys.Text.Basic

/-!
# UTF-8

Text as bytes, and bytes as text.
-/
namespace GeneratedKeys.Text

def toUtf8 (t : Text) : List UInt8 :=
  t.flatMap String.utf8EncodeChar

/-- The text whose UTF-8 form the bytes are, if they are one. -/
def ofUtf8? (bytes : ByteArray) : Option Text :=
  (String.fromUTF8? bytes).map String.toList

end GeneratedKeys.Text
