import GeneratedKeys.Statement.Reader

/-!
# Support for reading statements

Generated keys are to be had only where there is something to read statements with. This library
brings its own reader; others can be used in its place, or none.
-/
namespace GeneratedKeys

/-- A reader of statements, which may be missing. -/
structure Support where
  read? : Option (Text → Except Statement.Rejection Statement)

namespace Support

def builtin : Support :=
  ⟨some Statement.read⟩

def unavailable : Support :=
  ⟨none⟩

/-- A reader that reads every text as one statement. -/
def fixed (s : Statement) : Support :=
  ⟨some fun _ => .ok s⟩

def rejecting : Support :=
  ⟨some fun _ => .error ⟨.unexpected .statement .eof, ⟨0, 0⟩⟩⟩

def isLoaded (s : Support) : Bool :=
  s.read?.isSome

def describe (s : Support) : String :=
  "GeneratedKeysSupport \x7b loaded: " ++ toString s.isLoaded ++ " \x7d"

end Support
end GeneratedKeys
