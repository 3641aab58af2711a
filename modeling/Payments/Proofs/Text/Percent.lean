import Mathlib.Data.List.Flatten
import Payments.Proofs.Text.Utf8
import Payments.Text.Parts
import Payments.Text.Percent

/-!
# Payments.Proofs.Text.Percent -- percent-encoded text

Text is decoded from the front: an escape, a percent sign that begins none, or another character
(`escape_induction`). Encoding puts no escape where there was none, because what it encodes begins
with a percent sign and no escape goes on with one; so encoded text is decoded as the text itself
is, and the escapes that stood in it already are decoded too (`percentDecode_percentEncode`).

An escape is longer than what it stands for. So nothing shorter than a text is decoded as the text
(`eq_of_percentDecode`).

Encoding leaves separators where they are, as long as they are neither encoded themselves nor found
in escapes, so encoded text has the parts of the text, encoded (`parts_percentEncode`).
-/

namespace Payments.Text

variable {set isSeparator : Char → Bool} {c a b : Char} {cs ds : List Char}

/-! ## Escapes -/

/-- What makes an escape of a percent sign in front of it: two digits. -/
def StartsDigits (cs : List Char) : Prop :=
  ∃ a b rest, cs = a :: b :: rest ∧ (hexValue? a).isSome ∧ (hexValue? b).isSome

theorem percentDecode_escape {x y : Nat} (ha : hexValue? a = some x) (hb : hexValue? b = some y) :
    percentDecode ('%' :: a :: b :: cs) = UInt8.ofNat (x * 16 + y) :: percentDecode cs := by
  rw [percentDecode, ha, hb]

theorem percentDecode_percent (h : ¬ StartsDigits cs) :
    percentDecode ('%' :: cs) = utf8 "%" ++ percentDecode cs := by
  match cs, h with
  | [], _ => rfl
  | [_], _ => rfl
  | a :: b :: cs, h =>
    rw [percentDecode]
    split
    · next ha hb => exact absurd ⟨a, b, cs, rfl, by simp [ha], by simp [hb]⟩ h
    · rfl

theorem percentDecode_cons (hc : c ≠ '%') :
    percentDecode (c :: cs) = utf8 (String.singleton c) ++ percentDecode cs := by
  rw [percentDecode]
  intro a b cs h
  exact absurd h hc

/-- Text goes on with an escape, with a percent sign that begins none, or with another character. -/
theorem escape_induction {P : List Char → Prop} (nil : P [])
    (escape : ∀ a b cs x y, hexValue? a = some x → hexValue? b = some y → P cs →
      P ('%' :: a :: b :: cs))
    (percent : ∀ cs, ¬ StartsDigits cs → P cs → P ('%' :: cs))
    (other : ∀ c cs, c ≠ '%' → P cs → P (c :: cs)) (cs : List Char) : P cs := by
  match cs with
  | [] => exact nil
  | c :: cs =>
    by_cases hc : c = '%'
    · subst hc
      by_cases hcs : StartsDigits cs
      · obtain ⟨a, b, rest, rfl, ha, hb⟩ := hcs
        obtain ⟨x, hx⟩ := Option.isSome_iff_exists.1 ha
        obtain ⟨y, hy⟩ := Option.isSome_iff_exists.1 hb
        exact escape a b rest x y hx hy (escape_induction nil escape percent other rest)
      · exact percent cs hcs (escape_induction nil escape percent other cs)
    · exact other c cs hc (escape_induction nil escape percent other cs)
termination_by cs.length

/-! ## Encoded text -/

theorem percentEncode_append (xs ys : List Char) :
    percentEncode set (xs ++ ys) = percentEncode set xs ++ percentEncode set ys :=
  List.flatMap_append

theorem percentEncode_cons_of_mem (hc : set c = true) :
    percentEncode set (c :: cs) =
      (String.utf8EncodeChar c).flatMap percentByte ++ percentEncode set cs := by
  rw [percentEncode, List.flatMap_cons, if_pos hc, utf8_singleton]
  rfl

theorem percentEncode_cons_of_not_mem (hc : set c = false) :
    percentEncode set (c :: cs) = c :: percentEncode set cs := by
  rw [percentEncode, List.flatMap_cons, if_neg (by simp [hc])]
  rfl

/-- A set of characters that escapes are not made of. -/
structure SparesEscapes (set : Char → Bool) : Prop where
  percent : set '%' = false
  digit : ∀ c, (hexValue? c).isSome → set c = false

theorem hexValue?_upperHexDigit {n : Nat} (h : n < 16) : hexValue? (upperHexDigit n) = some n := by
  have hall : ∀ n : Fin 16, hexValue? (upperHexDigit n) = some n.val := by decide
  exact hall ⟨n, h⟩

theorem percentDecode_percentByte (byte : UInt8) :
    percentDecode (percentByte byte ++ cs) = byte :: percentDecode cs := by
  have hbyte := byte.toNat_lt
  have hhigh : byte.toNat / 16 < 16 := by omega
  have hlow : byte.toNat % 16 < 16 := by omega
  have hsum : byte.toNat / 16 * 16 + byte.toNat % 16 = byte.toNat := by omega
  show percentDecode ('%' :: _ :: _ :: cs) = _
  rw [percentDecode_escape (hexValue?_upperHexDigit hhigh) (hexValue?_upperHexDigit hlow), hsum,
    UInt8.ofNat_toNat]

theorem percentDecode_percentBytes (bytes : List UInt8) :
    percentDecode (bytes.flatMap percentByte ++ cs) = bytes ++ percentDecode cs := by
  induction bytes with
  | nil => rfl
  | cons byte bytes ih =>
    rw [List.flatMap_cons, List.append_assoc, percentDecode_percentByte, ih, List.cons_append]

/-- Where encoded text begins with a digit, the text did. -/
theorem eq_cons_of_percentEncode {rest : List Char} (h : percentEncode set cs = a :: rest)
    (ha : (hexValue? a).isSome) : ∃ ds, cs = a :: ds ∧ rest = percentEncode set ds := by
  cases cs with
  | nil => cases h
  | cons c ds =>
    cases hc : set c with
    | true =>
      -- an encoded character begins with a percent sign, which is no digit
      obtain ⟨byte, bytes, hbytes⟩ :=
        List.exists_cons_of_ne_nil (String.utf8EncodeChar_ne_nil (c := c))
      rw [percentEncode_cons_of_mem hc, hbytes, List.flatMap_cons] at h
      obtain ⟨rfl, -⟩ := List.cons.inj h
      exact absurd ha (by decide)
    | false =>
      rw [percentEncode_cons_of_not_mem hc] at h
      obtain ⟨rfl, rfl⟩ := List.cons.inj h
      exact ⟨ds, rfl, rfl⟩

theorem StartsDigits.of_percentEncode (h : StartsDigits (percentEncode set cs)) :
    StartsDigits cs := by
  obtain ⟨a, b, rest, h, ha, hb⟩ := h
  obtain ⟨ds, rfl, hds⟩ := eq_cons_of_percentEncode h ha
  obtain ⟨es, rfl, -⟩ := eq_cons_of_percentEncode hds.symm hb
  exact ⟨a, b, es, rfl, ha, hb⟩

/-- Encoded text is decoded as the text itself is. -/
theorem percentDecode_percentEncode (hset : SparesEscapes set) (cs : List Char) :
    percentDecode (percentEncode set cs) = percentDecode cs := by
  induction cs using escape_induction with
  | nil => rfl
  | escape a b cs x y ha hb ih =>
    rw [percentEncode_cons_of_not_mem hset.percent,
      percentEncode_cons_of_not_mem (hset.digit a (by simp [ha])),
      percentEncode_cons_of_not_mem (hset.digit b (by simp [hb])),
      percentDecode_escape ha hb, percentDecode_escape ha hb, ih]
  | percent cs hcs ih =>
    rw [percentEncode_cons_of_not_mem hset.percent, percentDecode_percent hcs,
      percentDecode_percent (mt StartsDigits.of_percentEncode hcs), ih]
  | other c cs hc ih =>
    rw [percentDecode_cons hc]
    cases hmem : set c with
    | true => rw [percentEncode_cons_of_mem hmem, percentDecode_percentBytes, ih, utf8_singleton]
    | false => rw [percentEncode_cons_of_not_mem hmem, percentDecode_cons hc, ih]

/-! ## Decoding and length -/

theorem length_percentDecode_le (cs : List Char) :
    (percentDecode cs).length ≤ (utf8 (String.ofList cs)).length := by
  simp only [utf8_ofList]
  induction cs using escape_induction with
  | nil => exact Nat.le_refl _
  | escape a b cs x y ha hb ih =>
    rw [percentDecode_escape ha hb]
    simp only [List.flatMap_cons, List.length_append, List.length_cons,
      String.length_utf8EncodeChar]
    have := Char.utf8Size_pos a
    omega
  | percent cs hcs ih =>
    rw [percentDecode_percent hcs, List.flatMap_cons, List.length_append, List.length_append]
    exact Nat.add_le_add_left ih _
  | other c cs hc ih =>
    rw [percentDecode_cons hc, utf8_singleton, List.flatMap_cons, List.length_append,
      List.length_append]
    exact Nat.add_le_add_left ih _

/-- What is decoded as a text, and has no characters but some of that text, is the text itself. -/
theorem eq_of_percentDecode {key : String} (hsub : cs.Sublist key.toList)
    (h : percentDecode cs = utf8 key) : cs = key.toList := by
  have hbytes : (utf8 (String.ofList cs)).Sublist (utf8 key) := by
    rw [← String.ofList_toList (s := key), utf8_ofList, utf8_ofList]
    exact hsub.flatMap _
  have hlength : (utf8 key).length ≤ (utf8 (String.ofList cs)).length :=
    h ▸ length_percentDecode_le cs
  rw [← utf8_injective (hbytes.eq_of_length_le hlength), String.toList_ofList]

/-! ## Parts -/

theorem parts_append_separator (hc : isSeparator c = true) (xs ys : List Char) :
    parts isSeparator (xs ++ c :: ys) = parts isSeparator xs ++ parts isSeparator ys := by
  induction xs with
  | nil => simp [parts, hc]
  | cons x xs ih =>
    rw [List.cons_append, parts, parts, ih]
    split
    · rfl
    · obtain ⟨part, rest, hparts⟩ := List.exists_cons_of_ne_nil (parts_ne_nil isSeparator xs)
      rw [hparts]
      rfl

/-- Characters that are no separators belong to the part they stand in front of. -/
theorem parts_append (hcs : ∀ c ∈ cs, isSeparator c = false) {part : List Char}
    {rest : List (List Char)} (hds : parts isSeparator ds = part :: rest) :
    parts isSeparator (cs ++ ds) = (cs ++ part) :: rest := by
  induction cs with
  | nil => exact hds
  | cons c cs ih =>
    rw [List.forall_mem_cons] at hcs
    rw [List.cons_append, parts, if_neg (by simp [hcs.1]), ih hcs.2]
    rfl

theorem parts_of_no_separator (hcs : ∀ c ∈ cs, isSeparator c = false) :
    parts isSeparator cs = [cs] := by
  have h := parts_append hcs (rfl : parts isSeparator [] = [[]])
  rwa [List.append_nil] at h

theorem not_isSeparator_of_mem_parts {part : List Char} (h : part ∈ parts isSeparator cs)
    (hc : c ∈ part) : isSeparator c = false := by
  induction cs generalizing part with
  | nil =>
    rw [parts, List.mem_singleton] at h
    subst h
    cases hc
  | cons d cs ih =>
    rw [parts] at h
    split at h
    · rcases List.mem_cons.1 h with rfl | h
      · cases hc
      · exact ih h hc
    · next hd =>
      obtain ⟨first, rest, hparts⟩ := List.exists_cons_of_ne_nil (parts_ne_nil isSeparator cs)
      rw [hparts] at h ih
      rcases List.mem_cons.1 h with rfl | h
      · rcases List.mem_cons.1 hc with rfl | hc
        · simpa using hd
        · exact ih List.mem_cons_self hc
      · exact ih (List.mem_cons_of_mem _ h) hc

theorem sublist_of_mem_parts {part : List Char} (h : part ∈ parts isSeparator cs) :
    part.Sublist cs := by
  induction cs generalizing part with
  | nil =>
    rw [parts, List.mem_singleton] at h
    exact h ▸ List.Sublist.refl _
  | cons c cs ih =>
    rw [parts] at h
    split at h
    · rcases List.mem_cons.1 h with rfl | h
      · exact List.nil_sublist _
      · exact (ih h).cons c
    · obtain ⟨first, rest, hparts⟩ := List.exists_cons_of_ne_nil (parts_ne_nil isSeparator cs)
      rw [hparts] at h ih
      rcases List.mem_cons.1 h with rfl | h
      · exact (ih List.mem_cons_self).cons_cons c
      · exact (ih (List.mem_cons_of_mem _ h)).cons c

/-- Separators that are not encoded, and that no escape is made of. -/
structure SparedBy (isSeparator set : Char → Bool) : Prop where
  separator : ∀ c, isSeparator c = true → set c = false
  percentByte : ∀ byte, ∀ c ∈ percentByte byte, isSeparator c = false

/-- Text that is encoded has the parts that it had, encoded. -/
theorem parts_percentEncode (h : SparedBy isSeparator set) (cs : List Char) :
    parts isSeparator (percentEncode set cs) =
      (parts isSeparator cs).map (percentEncode set) := by
  induction cs with
  | nil => rfl
  | cons c cs ih =>
    obtain ⟨part, rest, hparts⟩ := List.exists_cons_of_ne_nil (parts_ne_nil isSeparator cs)
    rw [hparts, List.map_cons] at ih
    cases hc : isSeparator c with
    | true =>
      rw [percentEncode_cons_of_not_mem (h.separator c hc), parts, parts, if_pos hc, if_pos hc, ih,
        hparts]
      rfl
    | false =>
      rw [parts, if_neg (by simp [hc]), hparts, List.map_cons]
      cases hset : set c with
      | true =>
        rw [percentEncode_cons_of_mem hset, percentEncode_cons_of_mem hset]
        refine parts_append (fun d hd => ?_) ih
        obtain ⟨byte, -, hd⟩ := List.mem_flatMap.1 hd
        exact h.percentByte byte d hd
      | false =>
        rw [percentEncode_cons_of_not_mem hset, percentEncode_cons_of_not_mem hset, parts,
          if_neg (by simp [hc]), ih]

end Payments.Text
