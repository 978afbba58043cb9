import GeneratedKeys.Text.Hexadecimal
import GeneratedKeys.Text.Utf8

/-!
# Percent escapes

In an address a percent sign with two hexadecimal digits stands for a byte. The parts of an address
are cut at marks, before the escapes in them are decoded.
-/
namespace GeneratedKeys.Text

/-- The bytes that a text with percent escapes stands for. A percent sign without two digits behind
it stands for itself. -/
def percentDecode : Text → List UInt8
  | [] => []
  | '%' :: a :: b :: t =>
    match hexDigit? a, hexDigit? b with
    | some high, some low => UInt8.ofNat (16 * high + low) :: percentDecode t
    | _, _ => String.utf8EncodeChar '%' ++ percentDecode (a :: b :: t)
  | c :: t => String.utf8EncodeChar c ++ percentDecode t

/-- What stands before the first occurrence of a mark, and what comes after it. -/
def cut (mark : Char) (t : Text) : Text × Text :=
  (t.takeWhile (· != mark), (t.dropWhile (· != mark)).tail)

theorem percentDecode_of_not_mem {t : Text} (h : '%' ∉ t) : percentDecode t = toUtf8 t := by
  fun_induction percentDecode t with
  | case1 => rfl
  | case2 => simp at h
  | case3 => simp at h
  | case4 c t _ ih =>
    simp only [List.mem_cons, not_or] at h
    simp [toUtf8, ih h.2]

theorem cut_of_not_mem {mark : Char} {t : Text} (h : mark ∉ t) : cut mark t = (t, []) := by
  induction t with
  | nil => rfl
  | cons c t ih =>
    simp only [List.mem_cons, not_or] at h
    have hc : (c != mark) = true := bne_iff_ne.2 (Ne.symm h.1)
    have := ih h.2
    simp only [cut, Prod.mk.injEq] at this
    simp [cut, hc, this.1, this.2]

theorem cut_append {mark : Char} {s : Text} (h : mark ∉ s) (t : Text) :
    cut mark (s ++ mark :: t) = (s, t) := by
  have hall : ∀ c ∈ s, (c != mark) = true := fun c hc => bne_iff_ne.2 fun he => h (he ▸ hc)
  simp [cut, List.takeWhile_append_of_pos hall, List.dropWhile_append_of_pos hall]

end GeneratedKeys.Text
