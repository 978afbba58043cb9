import GeneratedKeys.Database.Basic
import GeneratedKeys.Proofs.Denotation
import GeneratedKeys.Proofs.Spelling

/-!
# Matching up to the case of letters

A database compares names with patterns up to the case of ASCII letters, a catalog letter for
letter. The two come to the same once the pattern and the name are in upper case, unless the pattern
ends in an escape that takes no character. What the engine compares is the text as it reads it.
-/
namespace GeneratedKeys

namespace Text

/-- A text with its ASCII letters in upper case. -/
def asciiUpper (t : Text) : Text :=
  t.map Char.toUpper

theorem asciiUpper_of_not_isLower {t : Text} (h : ∀ c ∈ t, c.isLower = false) :
    asciiUpper t = t := by
  have hchars : ∀ c ∈ t, c.toUpper = c := fun c hc =>
    Char.toUpper_eq_of_not_isLower (Bool.eq_false_iff.1 (h c hc))
  exact (List.map_congr_left hchars).trans (List.map_id t)

end Text

namespace Database
open Text

theorem sameLetter_iff (c d : Char) : sameLetter c d = true ↔ c.toUpper = d.toUpper := by
  rw [sameLetter, beq_iff_eq]
  constructor
  · intro h
    rw [← Char.toUpper_toLower_eq_toUpper c, h, Char.toUpper_toLower_eq_toUpper]
  · intro h
    rw [← Char.toLower_toUpper_eq_toLower c, h, Char.toLower_toUpper_eq_toLower]

end Database

namespace Pattern
open Text TableName

/-- Whether a written pattern ends in an escape that takes no character. -/
def endsInEscape : Text → Bool
  | [] => false
  | ['\x5c'] => true
  | '\x5c' :: _ :: t => endsInEscape t
  | _ :: t => endsInEscape t

def Item.toUpper : Item → Item
  | .exactly c => .exactly c.toUpper
  | i => i

theorem ofText_exactly (atEnd : Item) {c : Char} (hc : isWildcard c = false) (t : Text) :
    ofText atEnd (c :: t) = .exactly c :: ofText atEnd t := by
  rw [ofText]
  all_goals
    intros
    subst_vars
    exact absurd hc (by decide)

theorem toUpper_of_isWildcard {c : Char} (hc : isWildcard c = true) : c.toUpper = c := by
  rcases eq_of_isWildcard hc with rfl | rfl | rfl
  · rfl
  · rfl
  · rfl

theorem not_isWildcard_toUpper {c : Char} (hc : isWildcard c = false) :
    isWildcard c.toUpper = false := by
  by_cases hn : c.toNat < 0x80
  · rw [isWildcard_toUpper hn, hc]
  · rw [Char.toUpper_eq_of_not_isLower (Bool.eq_false_iff.1 (not_isLower_of_le hn)), hc]

/-- Upper case changes the characters that items stand for and not the items. -/
theorem ofText_asciiUpper (atEnd other : Item) {t : Text} (h : endsInEscape t = false) :
    ofText atEnd (asciiUpper t) = (ofText other t).map Item.toUpper := by
  unfold asciiUpper
  fun_induction endsInEscape t with
  | case1 => rfl
  | case2 => cases h
  | case3 c t ih =>
    have hb : '\x5c'.toUpper = '\x5c' := by decide
    simp only [List.map_cons, hb, ofText, ih h, Item.toUpper]
  | case4 c t hlast hescape ih =>
    have hb : c ≠ '\x5c' := by
      intro hc
      cases t with
      | nil => exact hlast hc rfl
      | cons d t => exact hescape d t hc rfl
    cases hw : isWildcard c with
    | true =>
      rw [List.map_cons, toUpper_of_isWildcard hw]
      rcases eq_of_isWildcard hw with rfl | rfl | rfl
      · exact absurd rfl hb
      · simp only [ofText, ih h, List.map_cons, Item.toUpper]
      · simp only [ofText, ih h, List.map_cons, Item.toUpper]
    | false =>
      rw [List.map_cons, ofText_exactly atEnd (not_isWildcard_toUpper hw),
        ofText_exactly other hw, ih h]
      rfl

/-- Nothing stands for an escape that takes no character. -/
theorem not_fits_of_endsInEscape {same : Char → Char → Bool} {t : Text}
    (h : endsInEscape t = true) (name : Text) : ¬ Fits same (ofText .never t) name := by
  have hcons : ∀ {item : Item} {items : List Item} {name : Text},
      (∀ s, ¬ Fits same items s) → ¬ Fits same (item :: items) name := by
    intro item items name hitems hfits
    obtain ⟨piece, rest, -, -, hrest⟩ := fits_cons.1 hfits
    exact hitems rest hrest
  fun_induction endsInEscape t generalizing name with
  | case1 => cases h
  | case2 => exact not_fits_never
  | case3 c t ih => exact hcons (ih h)
  | case4 c t hlast hescape ih =>
    cases hw : isWildcard c with
    | true =>
      rcases eq_of_isWildcard hw with rfl | rfl | rfl
      · cases t with
        | nil => exact absurd rfl (hlast rfl)
        | cons d t => exact absurd rfl (hescape d t rfl)
      · exact hcons (ih h)
      · exact hcons (ih h)
    | false =>
      rw [ofText_exactly .never hw]
      exact hcons (ih h)

/-- Texts fit up to the case of letters if they fit in upper case. -/
theorem fits_asciiUpper {items : List Item} {t : Text} :
    Fits (· == ·) (items.map Item.toUpper) (asciiUpper t) ↔ Fits Database.sameLetter items t := by
  induction items generalizing t with
  | nil => simp [asciiUpper]
  | cons item items ih =>
    cases item with
    | anyRun =>
      simp only [List.map_cons, Item.toUpper, fits_anyRun, asciiUpper, List.suffix_map_iff]
      constructor
      · rintro ⟨_, ⟨s, hs, rfl⟩, hfits⟩
        exact ⟨s, hs, ih.1 hfits⟩
      · rintro ⟨s, hs, hfits⟩
        exact ⟨_, ⟨s, hs, rfl⟩, ih.2 hfits⟩
    | never => exact iff_of_false not_fits_never not_fits_never
    | anyOne =>
      cases t with
      | nil => exact iff_of_false not_fits_anyOne_nil not_fits_anyOne_nil
      | cons d t =>
        have hrest := @ih t
        simpa only [List.map_cons, Item.toUpper, asciiUpper, fits_anyOne_cons] using hrest
    | exactly c =>
      cases t with
      | nil => exact iff_of_false not_fits_exactly_nil not_fits_exactly_nil
      | cons d t =>
        have hrest := @ih t
        have hletter : (c.toUpper == d.toUpper) = true ↔ Database.sameLetter c d = true := by
          rw [beq_iff_eq, Database.sameLetter_iff]
        simp only [List.map_cons, Item.toUpper, asciiUpper, fits_exactly_cons]
        exact and_congr hletter hrest

end Pattern

namespace Database
open Text Pattern

/-- A text as the engine reads it where it compares. -/
def readText (t : Text) : Text :=
  t.map readChar

/-- A pattern as the engine reads it: up to its first terminator. -/
def readPattern (pattern : Text) : Text :=
  readText (pattern.takeWhile (· != terminator))

/-- Whether a name fits a pattern in a catalog once both are read as the engine reads them and
brought into upper case. A pattern that ends in an escape fits nothing. -/
def fitsUpper (pattern name : Text) : Bool :=
  !endsInEscape (readPattern pattern) &&
    Catalog.fits (asciiUpper (readPattern pattern)) (asciiUpper (readText name))

/-- What fits a pattern in a database is what fits it in a catalog in upper case. -/
theorem fits_eq_fitsUpper (pattern name : Text) : fits pattern name = fitsUpper pattern name := by
  have hitems : patternItems pattern = ofText .never (readPattern pattern) := rfl
  rw [Bool.eq_iff_iff, fits, fitsUpper, accepts_iff_fits, hitems]
  cases hescape : endsInEscape (readPattern pattern) with
  | true => exact iff_of_false (not_fits_of_endsInEscape hescape _) (by simp)
  | false =>
    rw [Bool.not_false, Bool.true_and, Catalog.fits_iff_means, Catalog.Means,
      ofText_asciiUpper (.exactly '\x5c') .never hescape, fits_asciiUpper]
    rfl

end Database
end GeneratedKeys
