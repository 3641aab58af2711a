import Payments.Text.Utf8

/-!
# Payments.Proofs.Text.Utf8 -- the bytes of a text

The bytes of a text are those of its characters, one after another (`utf8_ofList`), and different
texts have different bytes (`utf8_injective`). Read with gaps, the bytes of a text have none
(`spelled_utf8`).
-/

namespace Payments.Text

theorem utf8_ofList (cs : List Char) :
    utf8 (String.ofList cs) = cs.flatMap String.utf8EncodeChar := by
  rw [utf8, String.toUTF8_eq_toByteArray, String.toByteArray_ofList]
  simp [List.utf8Encode]

theorem utf8_singleton (c : Char) : utf8 (String.singleton c) = String.utf8EncodeChar c := by
  rw [String.singleton_eq_ofList, utf8_ofList, List.flatMap_singleton]

theorem utf8_injective {s t : String} (h : utf8 s = utf8 t) : s = t := by
  have hs := ofUtf8?_utf8 s
  rw [h, ofUtf8?_utf8] at hs
  exact (Option.some.inj hs).symm

/-! ## Bytes read with gaps -/

theorem firstChar?_utf8EncodeChar (c : Char) (rest : List UInt8) :
    firstChar? (String.utf8EncodeChar c ++ rest) = some c := by
  have hlength : (String.utf8EncodeChar c).length ≤ 4 := by
    rw [String.length_utf8EncodeChar]
    exact c.utf8Size_le_four
  rw [firstChar?, List.take_append, List.take_of_length_le hlength, List.toByteArray_append]
  exact ByteArray.utf8DecodeChar?_utf8EncodeChar_append

theorem spelledFrom_length (front rest : List UInt8) :
    spelledFrom front.length (front ++ rest) = spelledFrom 0 rest := by
  induction front with
  | nil => rfl
  | cons byte front ih => exact ih

theorem spelledFrom_utf8EncodeChar (c : Char) (rest : List UInt8) :
    spelledFrom 0 (String.utf8EncodeChar c ++ rest) = some c :: spelledFrom 0 rest := by
  have hfirst := firstChar?_utf8EncodeChar c rest
  have hlength := String.length_utf8EncodeChar c
  obtain ⟨byte, front, hbytes⟩ :=
    List.exists_cons_of_ne_nil (String.utf8EncodeChar_ne_nil (c := c))
  rw [hbytes] at hfirst hlength ⊢
  rw [List.cons_append] at hfirst ⊢
  -- what is passed over is the rest of the character
  have hskipped : c.utf8Size - 1 = front.length := by
    rw [← hlength, List.length_cons, Nat.add_sub_cancel]
  rw [spelledFrom, hfirst]
  show some c :: spelledFrom (c.utf8Size - 1) (front ++ rest) = _
  rw [hskipped, spelledFrom_length]

/-- The bytes of a text spell its characters, without a gap. -/
theorem spelled_utf8 (s : String) : spelled (utf8 s) = s.toList.map some := by
  rw [← s.ofList_toList, utf8_ofList, String.toList_ofList]
  generalize s.toList = cs
  induction cs with
  | nil => rfl
  | cons c cs ih =>
    rw [List.flatMap_cons, spelled, spelledFrom_utf8EncodeChar, List.map_cons]
    exact congrArg (some c :: ·) ih

end Payments.Text
