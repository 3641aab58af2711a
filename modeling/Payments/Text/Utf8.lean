/-!
# Payments.Text.Utf8 -- text as bytes

Text is stored and sent as the bytes of its UTF-8 form. Not all byte strings are the form of a text.
`ofUtf8?_utf8` says that what a text is written as is read as that text, and `utf8_of_ofUtf8?` that
nothing else is. `spelled` reads any byte string, with a gap for each byte that is no part of a
character.
-/

namespace Payments.Text

/-- The bytes of a text. -/
def utf8 (s : String) : List UInt8 :=
  s.toUTF8.data.toList

/-- The text that the bytes spell, if they do. -/
def ofUtf8? (bytes : List UInt8) : Option String :=
  String.fromUTF8? ⟨bytes.toArray⟩

/-- What a text is written as is read as that text. -/
theorem ofUtf8?_utf8 (s : String) : ofUtf8? (utf8 s) = some s := by
  have h : s.toUTF8.IsValidUTF8 := s.isValidUTF8
  simpa [ofUtf8?, utf8, String.fromUTF8?, String.fromUTF8] using h

/-- Only what a text is written as is read as that text. -/
theorem utf8_of_ofUtf8? {bytes : List UInt8} {s : String} (h : ofUtf8? bytes = some s) :
    utf8 s = bytes := by
  unfold ofUtf8? String.fromUTF8? at h
  split at h
  · obtain rfl := Option.some.inj h
    rfl
  · cases h

/-- The character that the bytes begin with. It has four bytes at most. -/
def firstChar? (bytes : List UInt8) : Option Char :=
  ByteArray.utf8DecodeChar? (bytes.take 4).toByteArray 0

/-- The characters that the bytes spell after so many of them, and `none` for each byte that is no
part of a character. -/
def spelledFrom : Nat → List UInt8 → List (Option Char)
  | _, [] => []
  | skipped + 1, _ :: bytes => spelledFrom skipped bytes
  | 0, byte :: bytes =>
    match firstChar? (byte :: bytes) with
    | some c => some c :: spelledFrom (c.utf8Size - 1) bytes
    | none => none :: spelledFrom 0 bytes

/-- The characters that the bytes spell, and `none` for each byte that is no part of a character. -/
def spelled (bytes : List UInt8) : List (Option Char) :=
  spelledFrom 0 bytes

end Payments.Text
