import GeneratedKeys.Text.Percent

/-!
# URLs of databases

    sqlite:PATH?NAME=VALUE&NAME=VALUE

A URL says where a database is and how it is to be opened. The path has percent escapes, and so
have the names and values of the settings, in which a plus sign stands for a space. A setting
that is not known, or whose value is not, makes the whole URL unreadable.
-/
namespace GeneratedKeys.Database

def word? (bytes : List UInt8) : Option String :=
  String.fromUTF8? ⟨bytes.toArray⟩

structure Url where
  path : Text
  readOnly : Bool
  create : Bool
  inMemory : Bool
  immutable : Bool
  vfs : Option (List UInt8)
deriving DecidableEq, Repr

namespace Url

def ofPath (path : Text) : Url :=
  ⟨path, false, false, false, false, none⟩

/-- A URL with one more setting. The last value of a setting counts, but of the modes each keeps
its effect. -/
def set? (u : Url) (name value : List UInt8) : Option Url :=
  match word? name, word? value with
  | some "mode", some "ro" => some { u with readOnly := true }
  | some "mode", some "rw" => some u
  | some "mode", some "rwc" => some { u with create := true }
  | some "mode", some "memory" => some { u with inMemory := true }
  | some "cache", some "private" => some u
  | some "cache", some "shared" => some u
  | some "immutable", some "true" => some { u with immutable := true }
  | some "immutable", some "1" => some { u with immutable := true }
  | some "immutable", some "false" => some { u with immutable := false }
  | some "immutable", some "0" => some { u with immutable := false }
  | some "vfs", _ => some { u with vfs := some value }
  | _, _ => none

/-- A text without a word at its start, as often as it stands there. `fuel` need not exceed the
length of the text. -/
def dropLeading (word : Text) : Nat → Text → Text
  | 0, t => t
  | fuel + 1, t =>
    match word.isPrefixOf? t with
    | some rest => dropLeading word fuel rest
    | none => t

/-- A URL without its scheme, which may be missing. -/
def withoutScheme (url : Text) : Text :=
  let url := dropLeading "sqlite://".toList url.length url
  dropLeading "sqlite:".toList url.length url

/-- The path that stands for a database in memory. -/
def memoryPath : Text :=
  ":memory:".toList

/-- The URL without settings that a path with percent escapes stands for. -/
def ofAddress? (address : Text) : Option Url :=
  if address = memoryPath then some { ofPath [] with inMemory := true }
  else (Text.ofUtf8? ⟨(Text.percentDecode address).toArray⟩).map ofPath

def component (t : Text) : List UInt8 :=
  Text.percentDecode (t.map fun c => if c = '+' then ' ' else c)

/-- The settings behind the question mark. Where nothing stands between two ampersands there is no
setting. -/
def settings (t : Text) : List (List UInt8 × List UInt8) :=
  ((t.splitOn '&').filter fun piece => !piece.isEmpty).map fun piece =>
    let (name, value) := Text.cut '=' piece
    (component name, component value)

def read? (url : Text) : Option Url := do
  let (address, rest) := Text.cut '?' (withoutScheme url)
  (settings rest).foldlM (fun u s => u.set? s.1 s.2) (← ofAddress? address)

end Url
end GeneratedKeys.Database
