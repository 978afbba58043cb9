import GeneratedKeys.Json.Fields
import Mathlib.Data.List.Forall2

/-!
# What a record is

A record in a document, told by where its fields stand: each stands once, among any others whose
names are texts, or what the fields hold is listed in their order. Reading a record finds what it
holds if it is one, and nothing else.
-/
namespace GeneratedKeys.Json

/-- An object has one field of a name, which holds a value. -/
def IsField (fields : List Field) (name : Text) (v : Json) : Prop :=
  ∃ before after, fields = before ++ (some name, v) :: after ∧
    (∀ f ∈ before, f.1 ≠ some name) ∧ ∀ f ∈ after, f.1 ≠ some name

/-- A record with fields of some names, and what they hold. -/
inductive IsRecord (names : List String) : Json → List Json → Prop
  | list {values : List Json} : values.length = names.length → IsRecord names (.array values) values
  | object {fields : List Field} {values : List Json} : (∀ f ∈ fields, f.1.isSome = true) →
      List.Forall₂ (fun name v => IsField fields name.toList v) names values →
      IsRecord names (.object fields) values

section
variable {fields : List Field} {name : String} {v : Json}

theorem valuesOf_eq_nil_iff : valuesOf name fields = [] ↔ ∀ f ∈ fields, f.1 ≠ some name.toList := by
  simp [valuesOf]

theorem valuesOf_eq_singleton_iff : valuesOf name fields = [v] ↔ IsField fields name.toList v := by
  simp only [valuesOf, List.map_eq_singleton_iff, List.filter_eq_cons_iff, List.filter_eq_nil_iff,
    beq_iff_eq]
  constructor
  · rintro ⟨f, ⟨before, after, rfl, hbefore, hname, hafter⟩, rfl⟩
    exact ⟨before, after, by rw [← hname], hbefore, hafter⟩
  · rintro ⟨before, after, rfl, hbefore, hafter⟩
    exact ⟨_, ⟨before, after, rfl, hbefore, rfl, hafter⟩, rfl⟩

theorem valueOf?_eq_some_iff : valueOf? name fields = some v ↔ IsField fields name.toList v := by
  rw [← valuesOf_eq_singleton_iff, valueOf?]
  split
  · next w hw => rw [hw, Option.some.injEq, List.singleton_inj]
  · next hvalues => exact iff_of_false (fun h => by cases h) (hvalues v)

end

/-- Every item of a list is taken to something, or the list as a whole is not. -/
theorem mapM_eq_some_iff {α β : Type} {f : α → Option β} {xs : List α} {ys : List β} :
    xs.mapM f = some ys ↔ List.Forall₂ (fun x y => f x = some y) xs ys := by
  induction xs generalizing ys with
  | nil =>
    rw [List.mapM_nil, List.forall₂_nil_left_iff]
    exact Option.some_inj.trans eq_comm
  | cons x xs ih =>
    rw [List.mapM_cons, List.forall₂_cons_left_iff]
    simp only [bind, Option.bind_eq_some_iff, pure, Option.some.injEq, ih]
    constructor
    · rintro ⟨y, hy, rest, hrest, rfl⟩
      exact ⟨y, rest, hy, hrest, rfl⟩
    · rintro ⟨y, rest, hy, hrest, rfl⟩
      exact ⟨y, hy, rest, hrest, rfl⟩

/-- Reading a record finds what its fields hold. -/
theorem record?_eq_some_iff {names : List String} {j : Json} {values : List Json} :
    j.record? names = some values ↔ IsRecord names j values := by
  cases j with
  | array items =>
    rw [record?]
    constructor
    · intro h
      split at h
      · next hlength =>
        cases h
        exact .list hlength
      · cases h
    · rintro ⟨hlength⟩
      rw [if_pos hlength]
  | object fields =>
    simp only [record?, List.all_eq_true]
    constructor
    · intro h
      split at h
      · next hnames =>
        have hvalues := mapM_eq_some_iff.1 h
        exact .object hnames (hvalues.imp fun _ _ => valueOf?_eq_some_iff.1)
      · cases h
    · rintro (_ | ⟨hnames, hvalues⟩)
      rw [if_pos hnames]
      exact mapM_eq_some_iff.2 (hvalues.imp fun _ _ => valueOf?_eq_some_iff.2)
  | _ =>
    constructor
    · intro h
      cases h
    · intro h
      cases h

theorem list?_eq_some_iff {j : Json} {items : List Json} :
    j.list? = some items ↔ j = .array items := by
  cases j <;> simp [list?]

theorem text?_eq_some_iff {j : Json} {t : Text} : j.text? = some t ↔ j = .string (some t) := by
  cases j <;> simp [text?]

theorem int32?_eq_some_iff {j : Json} {n : Int} :
    j.int32? = some n ↔ ∃ number, j = .number number ∧ number.toInt32? = some n := by
  cases j <;> simp [int32?]

end GeneratedKeys.Json
