import GeneratedKeys.Database.Url

/-!
# Locations of databases

A path that is opened names a file, or it is a file URI with settings of its own:

    file:PATH?NAME=VALUE&NAME=VALUE#FRAGMENT

The path may start with two slashes and an authority. The settings can lower the access that was
asked for, and choose the way in which the engine reaches files. A database has its location in the
end: a file, or memory, where it starts out empty.
-/
namespace GeneratedKeys.Database

/-- How a database is accessed, from the lowest access to the highest. -/
inductive Access
  | readOnly
  | readWrite
  /-- Reading and writing, and creating the database if it is missing. -/
  | create
  /-- In memory, under a path that names no file. -/
  | memory
deriving DecidableEq, Repr

namespace Access

def rank : Access → Nat
  | .readOnly => 0
  | .readWrite => 1
  | .create => 2
  | .memory => 3

def ofName? : String → Option Access
  | "ro" => some .readOnly
  | "rw" => some .readWrite
  | "rwc" => some .create
  | "memory" => some .memory
  | _ => none

/-- Whether an access can take the place of another. -/
def admits (held wanted : Access) : Bool :=
  wanted = .memory || wanted.rank ≤ held.rank

end Access

structure File where
  path : List UInt8
  access : Access
  /-- The path of a file that has to be there, and whose permissions a new database takes. -/
  modeOf : Option (List UInt8)
deriving DecidableEq, Repr

inductive Location
  | memory
  | file (f : File)
deriving DecidableEq, Repr

/-- What the engine is asked to open, and the way to reach files. -/
structure Opening where
  file : File
  vfs : Option (List UInt8)
deriving DecidableEq, Repr

namespace Opening

def ofFile (path : List UInt8) (access : Access) : Opening :=
  ⟨⟨path, access, none⟩, none⟩

/-- An opening with another access, if it can take the place of the one before. -/
def restrict? (o : Opening) (access : Access) : Option Opening :=
  if o.file.access.admits access then some { o with file := { o.file with access := access } }
  else none

/-- An opening with one more setting of a file URI. A setting that is not known changes nothing.
The last value of a setting counts, but the first file for permissions. -/
def set? (o : Opening) (name value : List UInt8) : Option Opening :=
  match word? name, word? value with
  | some "vfs", _ => some { o with vfs := some value }
  | some "cache", some "shared" => some o
  | some "cache", some "private" => some o
  | some "cache", _ => none
  | some "mode", mode? => (mode?.bind Access.ofName?).bind o.restrict?
  | some "modeof", _ =>
    some { o with file := { o.file with modeOf := o.file.modeOf.or (some value) } }
  | _, _ => some o

/-- Bytes up to the first zero, at which the engine ends a text. -/
def upToZero (bytes : List UInt8) : List UInt8 :=
  bytes.takeWhile (· != 0)

/-- The path, a name or a value in a file URI. -/
def component (t : Text) : List UInt8 :=
  upToZero (Text.percentDecode t)

/-- The settings of a file URI. Those without a name do not count. -/
def settings (t : Text) : List (List UInt8 × List UInt8) :=
  (((t.splitOn '&').map (Text.cut '=')).map fun s => (component s.1, component s.2)).filter
    fun s => !s.1.isEmpty

/-- What follows the authority of a file URI, which can only be this host. -/
def afterAuthority? (t : Text) : Option Text :=
  match t with
  | '/' :: '/' :: t =>
    let authority := t.takeWhile (· != '/')
    if authority.isEmpty || authority = "localhost".toList then some (t.dropWhile (· != '/'))
    else none
  | t => some t

/-- Reads what follows the scheme of a file URI. -/
def ofUri? (access : Access) (t : Text) : Option Opening := do
  let t ← afterAuthority? t
  let (path, rest) := Text.cut '?' (t.takeWhile (· != '#'))
  (settings rest).foldlM (fun o s => o.set? s.1 s.2) (ofFile (component path) access)

def uriScheme : Text :=
  "file:".toList

/-- Reads a path that may be a file URI. A NUL cannot be in it. -/
def ofPath? (access : Access) (path : Text) : Option Opening :=
  if path.contains '\x00' then none
  else
    match uriScheme.isPrefixOf? path with
    | some t => ofUri? access t
    | none => some (ofFile (Text.toUtf8 path) access)

/-- Whether a database without a file of its own is asked for. -/
def isTransient (o : Opening) : Bool :=
  o.file.access = .memory || o.file.path.isEmpty || o.file.path = Text.toUtf8 Url.memoryPath

/-- The location that is opened, if there is the way to reach files that is asked for. -/
def location? (o : Opening) : Option Location :=
  let file := if o.isTransient then Location.memory else .file o.file
  match o.vfs.map word? with
  | none => some file
  | some (some "unix") => some file
  | some (some "unix-none") => some file
  | some (some "unix-dotfile") => some file
  | some (some "unix-excl") => some file
  | some (some "memdb") => some .memory
  | _ => none

end Opening

namespace Url

def access (u : Url) : Access :=
  if u.inMemory then .memory
  else if u.readOnly then .readOnly
  else if u.create then .create
  else .readWrite

/-- What is opened for a URL. Where the file is said not to change, or the way to reach it is
chosen, the path is no file URI. -/
def opening? (u : Url) : Option Opening :=
  if u.immutable || u.vfs.isSome then
    some ⟨⟨Opening.upToZero (Text.toUtf8 u.path), u.access, none⟩, u.vfs.map Opening.upToZero⟩
  else Opening.ofPath? u.access u.path

def location? (u : Url) : Option Location :=
  u.opening?.bind Opening.location?

end Url

/-- The location of the database that a URL names. -/
def locate? (url : Text) : Option Location :=
  (Url.read? url).bind Url.location?

end GeneratedKeys.Database
