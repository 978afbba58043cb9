import Std.Data.TreeMap
import GeneratedKeys.Text.Basic

/-!
# Patterns

A pattern is a sequence of items, each of which stands for a piece of a name: any piece, any one
character, or one given character. Matching looks at pairs of a rest of the name and a rest of the
pattern, its places, and remembers the answer for every place, so none is worked out twice.
-/
namespace GeneratedKeys.Pattern

inductive Item
  /-- Stands for any piece, the empty one included. -/
  | anyRun
  | anyOne
  | exactly (c : Char)
  | never
deriving DecidableEq, Repr

/-- The items of a written pattern. A backslash takes the next character as it is; `atEnd` is what
a backslash with nothing after it stands for. -/
def ofText (atEnd : Item) : Text → List Item
  | [] => []
  | ['\x5c'] => [atEnd]
  | '\x5c' :: c :: t => .exactly c :: ofText atEnd t
  | '%' :: t => .anyRun :: ofText atEnd t
  | '_' :: t => .anyOne :: ofText atEnd t
  | c :: t => .exactly c :: ofText atEnd t

/-! ### Matching -/

/-- The order of places: by the length of the rest of the name, then of the pattern. -/
abbrev comparePlaces (a b : Nat × Nat) : Ordering :=
  compareLex (compareOn Prod.fst) (compareOn Prod.snd) a b

instance : Std.LawfulEqCmp comparePlaces where
  eq_of_compare h := by
    simp only [comparePlaces, compareLex, compareOn, Ordering.then_eq_eq,
      Std.compare_eq_iff_eq] at h
    exact Prod.ext h.1 h.2

/-- Answers worked out so far, by the lengths of the rests of the name and of the pattern. -/
abbrev Memo := Std.TreeMap (Nat × Nat) Bool comparePlaces

/-- The answer remembered for a place, or else the one worked out now, which is remembered. -/
def remembered (place : Nat × Nat) (work : Memo → Bool × Memo) (memo : Memo) : Bool × Memo :=
  match memo[place]? with
  | some known => (known, memo)
  | none =>
    let answer := work memo
    (answer.1, answer.2.insert place answer.1)

/-- Whether `accepts` holds of a text or of one of its ends. These are the places at which `items`
items are left. -/
def anySuffix (accepts : Text → Memo → Bool × Memo) (items : Nat) : Text → Memo → Bool × Memo
  | [] => remembered (0, items) (accepts [])
  | c :: t => remembered (t.length + 1, items) fun memo =>
    let answer := accepts (c :: t) memo
    if answer.1 then answer else anySuffix accepts items t answer.2

/-- Whether a text is in pieces that the items stand for. Characters are compared by `same`. -/
def run (same : Char → Char → Bool) : List Item → Text → Memo → Bool × Memo
  | [], t => remembered (t.length, 0) fun memo => (t.isEmpty, memo)
  | .anyRun :: items, t => anySuffix (run same items) (items.length + 1) t
  | .anyOne :: items, t => remembered (t.length, items.length + 1) fun memo =>
    match t with
    | [] => (false, memo)
    | _ :: t => run same items t memo
  | .exactly c :: items, t => remembered (t.length, items.length + 1) fun memo =>
    match t with
    | [] => (false, memo)
    | d :: t => if same c d then run same items t memo else (false, memo)
  | .never :: items, t => remembered (t.length, items.length + 1) fun memo => (false, memo)

/-- Whether a name is in pieces that the items stand for. -/
def accepts (same : Char → Char → Bool) (items : List Item) (name : Text) : Bool :=
  (run same items name ∅).1

end GeneratedKeys.Pattern
