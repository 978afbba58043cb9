import GeneratedKeys.Database.Basic
import GeneratedKeys.Text.Utf8

/-!
# The order of names

A database orders names by the code points of their characters. The UTF-8 form keeps this order, so
it is also the order of the bytes of the names.
-/
namespace GeneratedKeys

namespace Text

theorem cons_lt_cons_of {m n : Nat} (hn : n < 256) {s t : List UInt8}
    (h : m < n ∨ m = n ∧ s < t) : UInt8.ofNat m :: s < UInt8.ofNat n :: t := by
  rw [List.cons_lt_cons_iff, UInt8.lt_iff_toNat_lt]
  rcases h with h | ⟨rfl, h⟩
  · left
    simp only [UInt8.toNat_ofNat']
    omega
  · exact .inr ⟨rfl, h⟩

/-- The bytes of the smaller code point come first, whatever stands behind them. -/
theorem utf8EncodeChar_lt {c d : Char} (h : c.toNat < d.toNat) (s t : List UInt8) :
    String.utf8EncodeChar c ++ s < String.utf8EncodeChar d ++ t := by
  have hd : d.toNat < 0x110000 := by
    have hvalid := d.valid
    simp only [UInt32.isValidChar, Nat.isValidChar] at hvalid
    unfold Char.toNat
    omega
  simp only [String.utf8EncodeChar, Char.toNat_val]
  generalize c.toNat = m at *
  generalize d.toNat = n at *
  -- More bytes come with a greater first one, and as many are compared from the first one on.
  have hlead {a b : Nat} {u v : List UInt8} (hb : b < 256) (hab : a < b) :
      UInt8.ofNat a :: u < UInt8.ofNat b :: v := cons_lt_cons_of hb (.inl hab)
  have hsame {a b : Nat} {u v : List UInt8} (hb : b < 256) (hab : a = b) (huv : u < v) :
      UInt8.ofNat a :: u < UInt8.ofNat b :: v := cons_lt_cons_of hb (.inr ⟨hab, huv⟩)
  by_cases h1 : m ≤ 0x7f
  · rw [if_pos h1]
    repeat' split
    all_goals exact hlead (by omega) (by omega)
  rw [if_neg h1, if_neg (by omega : ¬ n ≤ 0x7f)]
  by_cases h2 : m ≤ 0x7ff
  · rw [if_pos h2]
    repeat' split
    · by_cases hone : m / 64 = n / 64
      · exact hsame (by omega) (by omega) (hlead (by omega) (by omega))
      · exact hlead (by omega) (by omega)
    all_goals exact hlead (by omega) (by omega)
  rw [if_neg h2, if_neg (by omega : ¬ n ≤ 0x7ff)]
  by_cases h3 : m ≤ 0xffff
  · rw [if_pos h3]
    split
    · by_cases htwo : m / 64 = n / 64
      · exact hsame (by omega) (by omega)
          (hsame (by omega) (by omega) (hlead (by omega) (by omega)))
      by_cases hone : m / 4096 = n / 4096
      · exact hsame (by omega) (by omega) (hlead (by omega) (by omega))
      · exact hlead (by omega) (by omega)
    · exact hlead (by omega) (by omega)
  rw [if_neg h3, if_neg (by omega : ¬ n ≤ 0xffff)]
  by_cases hthree : m / 64 = n / 64
  · exact hsame (by omega) (by omega) (hsame (by omega) (by omega)
      (hsame (by omega) (by omega) (hlead (by omega) (by omega))))
  by_cases htwo : m / 4096 = n / 4096
  · exact hsame (by omega) (by omega)
      (hsame (by omega) (by omega) (hlead (by omega) (by omega)))
  by_cases hone : m / 262144 = n / 262144
  · exact hsame (by omega) (by omega) (hlead (by omega) (by omega))
  · exact hlead (by omega) (by omega)

theorem append_lt_append_iff (p s t : List UInt8) : p ++ s < p ++ t ↔ s < t := by
  induction p with
  | nil => rfl
  | cons b p ih => simp [ih]

theorem toUtf8_cons (c : Char) (t : Text) :
    toUtf8 (c :: t) = String.utf8EncodeChar c ++ toUtf8 t :=
  List.flatMap_cons

theorem toUtf8_pos (c : Char) (t : Text) : [] < toUtf8 (c :: t) := by
  rw [toUtf8_cons]
  obtain ⟨b, bs, hb⟩ := List.exists_cons_of_ne_nil (String.utf8EncodeChar_ne_nil (c := c))
  rw [hb]
  exact List.nil_lt_cons b _

end Text

namespace Database
open Text

/-- The order of names is that of their bytes. -/
theorem comesBefore_iff (a b : Text) : comesBefore a b = true ↔ toUtf8 a < toUtf8 b := by
  induction a generalizing b with
  | nil =>
    cases b with
    | nil => simp [comesBefore, toUtf8]
    | cons d b => exact iff_of_true rfl (toUtf8_pos d b)
  | cons c a ih =>
    cases b with
    | nil =>
      have hlt := toUtf8_pos c a
      exact iff_of_false (by simp [comesBefore]) (List.lt_asymm hlt)
    | cons d b =>
      have hcons : comesBefore (c :: a) (d :: b) =
          (decide (c.toNat < d.toNat) || c == d && comesBefore a b) := rfl
      rw [hcons, toUtf8_cons, toUtf8_cons]
      rcases Nat.lt_trichotomy c.toNat d.toNat with hlt | heq | hgt
      · exact iff_of_true (by simp [hlt]) (utf8EncodeChar_lt hlt _ _)
      · obtain rfl : c = d := Char.toNat_inj.1 heq
        rw [append_lt_append_iff, ← ih b]
        simp
      · have hne : c ≠ d := by
          rintro rfl
          omega
        have hnot : ¬ c.toNat < d.toNat := by omega
        exact iff_of_false (by simp [hne, hnot]) (List.lt_asymm (utf8EncodeChar_lt hgt _ _))

/-- Of two different names one comes before the other. -/
theorem comesBefore_or_comesBefore {a b : Text} (h : a ≠ b) :
    comesBefore a b = true ∨ comesBefore b a = true := by
  induction a generalizing b with
  | nil =>
    cases b with
    | nil => exact absurd rfl h
    | cons d b => exact .inl rfl
  | cons c a ih =>
    cases b with
    | nil => exact .inr rfl
    | cons d b =>
      simp only [comesBefore, List.lex, Bool.or_eq_true, decide_eq_true_eq, Bool.and_eq_true,
        beq_iff_eq]
      rcases Nat.lt_trichotomy c.toNat d.toNat with hlt | heq | hgt
      · exact .inl (.inl hlt)
      · obtain rfl : c = d := Char.toNat_inj.1 heq
        have hab : a ≠ b := by
          rintro rfl
          exact h rfl
        exact (ih hab).imp (fun hb => .inr ⟨rfl, hb⟩) fun ha => .inr ⟨rfl, ha⟩
      · exact .inr (.inl hgt)

/-- Names that do not go against the order and are different follow it. -/
theorem lt_of_not_comesBefore {a b : Text} (hne : a ≠ b) (h : comesBefore b a = false) :
    toUtf8 a < toUtf8 b := by
  rcases comesBefore_or_comesBefore hne with hab | hba
  · exact (comesBefore_iff a b).1 hab
  · rw [h] at hba
    cases hba

end Database
end GeneratedKeys
