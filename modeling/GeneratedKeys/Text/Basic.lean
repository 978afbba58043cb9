/-!
# Text

A text is a list of characters. Offsets into it count the bytes of its UTF-8 form, so two texts
placed one after the other have sizes that add up.
-/
namespace GeneratedKeys

/-- A text, character by character. -/
abbrev Text := List Char

namespace Text

/-- The number of bytes in the UTF-8 form of a text. -/
def size : Text → Nat
  | [] => 0
  | c :: t => c.utf8Size + size t

@[simp] theorem size_nil : size [] = 0 := rfl

@[simp] theorem size_cons (c : Char) (t : Text) : size (c :: t) = c.utf8Size + size t := rfl

@[simp] theorem size_append (s t : Text) : size (s ++ t) = size s + size t := by
  induction s with
  | nil => simp
  | cons c s ih => simp [ih, Nat.add_assoc]

theorem length_le_size (t : Text) : t.length ≤ size t := by
  induction t with
  | nil => simp
  | cons c t ih =>
    have := c.utf8Size_pos
    simp only [List.length_cons, size_cons]
    omega

/-- The text after the first `n` bytes, if they are whole characters. -/
def dropSize? : Nat → Text → Option Text
  | 0, t => some t
  | _ + 1, [] => none
  | n + 1, c :: t => if c.utf8Size ≤ n + 1 then dropSize? (n + 1 - c.utf8Size) t else none

/-- The first `n` bytes of a text, if they are whole characters. -/
def takeSize? : Nat → Text → Option Text
  | 0, _ => some []
  | _ + 1, [] => none
  | n + 1, c :: t =>
    if c.utf8Size ≤ n + 1 then (takeSize? (n + 1 - c.utf8Size) t).map (c :: ·) else none

@[simp] theorem dropSize?_zero (t : Text) : dropSize? 0 t = some t := by cases t <;> rfl

@[simp] theorem takeSize?_zero (t : Text) : takeSize? 0 t = some [] := by cases t <;> rfl

theorem dropSize?_size_append (s t : Text) : dropSize? (size s) (s ++ t) = some t := by
  induction s with
  | nil => simp
  | cons c s ih =>
    have := c.utf8Size_pos
    obtain ⟨n, hn⟩ : ∃ n, c.utf8Size + size s = n + 1 := ⟨c.utf8Size + size s - 1, by omega⟩
    have hr : n + 1 - c.utf8Size = size s := by omega
    have hc : c.utf8Size ≤ n + 1 := by omega
    simp [hn, dropSize?, hc, hr, ih]

theorem takeSize?_size_append (s t : Text) : takeSize? (size s) (s ++ t) = some s := by
  induction s with
  | nil => simp
  | cons c s ih =>
    have := c.utf8Size_pos
    obtain ⟨n, hn⟩ : ∃ n, c.utf8Size + size s = n + 1 := ⟨c.utf8Size + size s - 1, by omega⟩
    have hr : n + 1 - c.utf8Size = size s := by omega
    have hc : c.utf8Size ≤ n + 1 := by omega
    simp [hn, takeSize?, hc, hr, ih]

end Text
end GeneratedKeys
