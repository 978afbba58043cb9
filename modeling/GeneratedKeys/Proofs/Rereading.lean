import GeneratedKeys.Column.Document
import GeneratedKeys.Proofs.Documents
import GeneratedKeys.Proofs.Records

/-!
# Columns that are written and read again

A column is read from any document that is a record of its name and its position, whatever the
layout, the order of the fields and the escapes are. What is written of a column is one such
document, so a column that has been read, from whatever text, is read again from what is written of
it.
-/
namespace GeneratedKeys.Column
open Json

/-! ### Reading -/

/-- A document is a record of the name and the position of a column. -/
def IsDocument (j : Json) (c : Column) : Prop :=
  ∃ number, IsRecord fieldNames j [.string (some c.name), .number number] ∧
    number.toInt32? = some c.position

theorem ofJson?_eq_some_iff {j : Json} {c : Column} : ofJson? j = some c ↔ IsDocument j c := by
  constructor
  · intro h
    unfold ofJson? at h
    split at h
    · next name position hrecord =>
      obtain ⟨t, ht, h⟩ := Option.bind_eq_some_iff.1 h
      obtain ⟨n, hn, h⟩ := Option.bind_eq_some_iff.1 h
      cases h
      obtain ⟨number, rfl, hnumber⟩ := int32?_eq_some_iff.1 hn
      rw [text?_eq_some_iff.1 ht, record?_eq_some_iff] at hrecord
      exact ⟨number, hrecord, hnumber⟩
    · cases h
  · rintro ⟨number, hrecord, hnumber⟩
    simp [ofJson?, record?_eq_some_iff.2 hrecord, text?, int32?, hnumber]

/-- A text holds a document of a column, with any space between the pieces of the document. -/
def Describes (t : Text) (c : Column) : Prop :=
  ∃ j, Piece.Cuts t j.pieces ∧ IsDocument j c

theorem read?_eq_some_iff {t : Text} {c : Column} : read? t = some c ↔ Describes t c := by
  simp only [read?, Option.bind_eq_some_iff, Json.read?_eq_some_iff, ofJson?_eq_some_iff, Describes]

/-- Only positions of 32 bits are read. -/
theorem isInt32_of_read? {t : Text} {c : Column} (h : read? t = some c) :
    Text.isInt32 c.position = true := by
  obtain ⟨j, -, number, -, hnumber⟩ := read?_eq_some_iff.1 h
  exact isInt32_of_toInt32? hnumber

/-! ### Writing -/

/-- The document that is written of a column. -/
def document (c : Column) : Json :=
  .object [(some "name".toList, .string (some c.name)),
    (some "ordinal_position".toList, .number (.ofInt c.position))]

theorem isDocument_document {c : Column} (h : Text.isInt32 c.position = true) :
    IsDocument c.document c := by
  refine ⟨.ofInt c.position, .object ?_ (.cons ?_ (.cons ?_ .nil)), toInt32?_ofInt h⟩
  · simp
  · exact ⟨[], _, rfl, by simp, by simp⟩
  · exact ⟨[(some "name".toList, .string (some c.name))], [], rfl, by simp, by simp⟩

theorem write_eq (c : Column) :
    write c = '\x7b' :: (writeString "name".toList ++ ':' :: (writeString c.name ++ ',' ::
      (writeString "ordinal_position".toList ++ ':' :: (Text.ofInt c.position ++ ['\x7d'])))) := by
  have hname : "\x7b\"name\":".toList = '\x7b' :: (writeString "name".toList ++ [':']) := by
    decide +kernel
  have hposition : ",\"ordinal_position\":".toList =
      ',' :: (writeString "ordinal_position".toList ++ [':']) := by decide +kernel
  unfold write
  simp only [hname, hposition, List.cons_append, List.append_assoc, List.nil_append]

/-- What is written of a column is cut into the pieces of its document. -/
theorem cuts_write (c : Column) : Piece.Cuts (write c) c.document.pieces := by
  have hend : EndsNumber ['\x7d'] := by
    intro d hd
    cases hd
    decide
  have hlast : Piece.Cuts ['\x7d'] [.closeObject] := .cons rfl rfl (.nil rfl)
  rw [write_eq]
  refine .cons rfl rfl (.string _ (.cons rfl rfl (.string _ (.cons rfl rfl (.string _ ?_)))))
  exact .cons rfl rfl (.number _ hend hlast)

theorem read?_write {c : Column} (h : Text.isInt32 c.position = true) :
    read? (write c) = some c :=
  read?_eq_some_iff.2 ⟨c.document, c.cuts_write, isDocument_document h⟩

/-- A column is read from the texts that hold a document of it, and from no other. One with a
position of 32 bits is read again from what is written of it; so is every column that has been read
from a text, whatever its layout is, and it is then written in the same way. -/
theorem written_and_reread :
    (∀ (t : Text) (c : Column), read? t = some c ↔ Describes t c) ∧
      (∀ c : Column, Text.isInt32 c.position = true → read? (write c) = some c) ∧
        ∀ (t : Text) (c : Column), read? t = some c →
          read? (write c) = some c ∧ (read? (write c)).map write = some (write c) := by
  refine ⟨fun t c => read?_eq_some_iff, fun c hc => read?_write hc, fun t c ht => ?_⟩
  have hreread := read?_write (isInt32_of_read? ht)
  exact ⟨hreread, by rw [hreread, Option.map_some]⟩

/-- A name of characters that are escaped and of one that needs two code units is read again, with
the least position; so are a record with an unknown field, spaces and escapes and a list. -/
theorem written_and_reread_escaped :
    let least : Column := ⟨['\x22', '\x5c', '\x01', '\x7f', '😀'], -2147483648⟩
    let found : Column := ⟨['é', '😀', '/'], 7⟩
    let record := (" \x7b \"ordinal_position\" : 7 ,\n\"more\":[\x7b\x7d, 1e9],\"name\":" ++
      "\"\\u00e9\\ud83d\\ude00\\/\"\x7d").toList
    let list := "[\"é😀/\",\t7]".toList
    (Text.isInt32 least.position = true ∧ read? (write least) = some least) ∧
      (read? record = some found ∧ Describes record found ∧ read? (write found) = some found) ∧
      read? list = some found ∧ (read? (write found)).map write = some (write found) := by
  intro least found record list
  have hleast : Text.isInt32 least.position = true := by decide
  have hrecord : read? record = some found := by decide +kernel
  have hlist : read? list = some found := by decide +kernel
  obtain ⟨hdescribes, hwritten, hread⟩ := written_and_reread
  have hfound := (hread record found hrecord).1
  exact ⟨⟨hleast, hwritten least hleast⟩, ⟨hrecord, (hdescribes _ _).1 hrecord, hfound⟩, hlist,
    (hread list found hlist).2⟩

end GeneratedKeys.Column
