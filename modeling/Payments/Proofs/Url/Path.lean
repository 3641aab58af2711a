import Payments.Proofs.Text.Percent
import Payments.Url

/-!
# Payments.Proofs.Url.Path -- where the segments of a path lead

The segments of a path are gone through one by one, and only the last is treated in a way of its
own. So a path that goes on below another one is carried out from where that one leads
(`Path.walk_append`), and what is kept of it at the end is its last segment, or nothing
(`Path.walk_concat`).

Segments hold no slashes, so the text of a path tells its segments (`Path.text_injective`).
-/

namespace Payments.Url

/-! ## Encoding in paths -/

theorem toNat_le_of_hexValue? {c : Char} (h : (Text.hexValue? c).isSome) : c.toNat ≤ 102 := by
  unfold Text.hexValue? at h
  split at h
  · next hdigit =>
    rw [Char.isDigit, Bool.and_eq_true, decide_eq_true_eq, decide_eq_true_eq] at hdigit
    exact Nat.le_trans hdigit.2 (by decide)
  · split at h
    · next hlower => exact hlower.2
    · split at h
      · next hupper => exact Nat.le_trans hupper.2 (by decide)
      · cases h

theorem sparesEscapes_inPathSet : Text.SparesEscapes inPathSet where
  percent := by decide
  digit := by
    intro c hdigit
    have hall : ∀ n : Fin 103, (Text.hexValue? (Char.ofNat n)).isSome →
        inPathSet (Char.ofNat n) = false := by decide
    have hc := hall ⟨c.toNat, Nat.lt_succ_of_le (toNat_le_of_hexValue? hdigit)⟩
    rw [Char.ofNat_toNat] at hc
    exact hc hdigit

theorem isSlash_iff {c : Char} : isSlash true c = true ↔ c = '/' ∨ c = '\\' := by
  simp [isSlash]

theorem sparedBy_isSlash : Text.SparedBy (isSlash true) inPathSet where
  separator := by
    intro c hc
    rcases isSlash_iff.1 hc with rfl | rfl <;> decide
  percentByte := by
    intro byte c hc
    have hall : ∀ n : Fin 16, isSlash true (Text.upperHexDigit n) = false := by decide
    have hbyte := byte.toNat_lt
    simp only [Text.percentByte, List.mem_cons, List.not_mem_nil, or_false] at hc
    rcases hc with rfl | rfl | rfl
    · decide
    · exact hall ⟨byte.toNat / 16, by omega⟩
    · exact hall ⟨byte.toNat % 16, by omega⟩

namespace Path

variable {kept segments : List (List Char)} {segment : List Char}

/-! ## Dots -/

/-- Only the capital letters of the ASCII range have another small letter. -/
theorem toLower_induction {P : Char → Char → Prop} (same : ∀ c, P c c)
    (capital : ∀ n : Fin 91, P (Char.ofNat n) (Char.ofNat n).toLower) (c : Char) :
    P c c.toLower := by
  by_cases hc : c.toNat < 91
  · have h := capital ⟨c.toNat, hc⟩
    rwa [Char.ofNat_toNat] at h
  · have hself : c.toLower = c := dif_neg fun h => hc (Nat.lt_succ_of_le h.2)
    rw [hself]
    exact same c

theorem hexValue?_toLower (c : Char) : Text.hexValue? c.toLower = Text.hexValue? c :=
  toLower_induction (P := fun c d => Text.hexValue? d = Text.hexValue? c) (fun _ => rfl)
    (by decide) c

theorem eq_point_of_toLower {c : Char} : c.toLower = '.' → c = '.' :=
  toLower_induction (P := fun c d => d = '.' → c = '.') (fun _ => id) (by decide) c

theorem eq_percent_of_toLower {c : Char} : c.toLower = '%' → c = '%' :=
  toLower_induction (P := fun c d => d = '%' → c = '%') (fun _ => id) (by decide) c

theorem percentDecode_append_of_isSingleDot (h : isSingleDot segment = true)
    (rest : List Char) :
    Text.percentDecode (segment ++ rest) = Text.utf8 "." ++ Text.percentDecode rest := by
  simp only [isSingleDot, Bool.or_eq_true, decide_eq_true_eq, List.map_eq_cons_iff,
    List.map_eq_nil_iff] at h
  rcases h with ⟨point, _, rfl, hpoint, rfl⟩ |
    ⟨percent, _, rfl, hpercent, two, _, rfl, htwo, e, _, rfl, he, rfl⟩
  · obtain rfl := eq_point_of_toLower hpoint
    exact Text.percentDecode_cons (by decide)
  · obtain rfl := eq_percent_of_toLower hpercent
    have hhigh : Text.hexValue? two = some 2 := by rw [← hexValue?_toLower, htwo]; rfl
    have hlow : Text.hexValue? e = some 14 := by rw [← hexValue?_toLower, he]; rfl
    exact Text.percentDecode_escape hhigh hlow

/-- What stands for the place it is in is decoded as a dot. -/
theorem percentDecode_of_isSingleDot (h : isSingleDot segment = true) :
    Text.percentDecode segment = Text.utf8 "." := by
  have hdot := percentDecode_append_of_isSingleDot h []
  rwa [List.append_nil] at hdot

/-- What stands for the place above is two of what stands for the place it is in. -/
theorem exists_of_isDoubleDot (h : isDoubleDot segment = true) :
    ∃ first second, segment = first ++ second ∧ isSingleDot first = true ∧
      isSingleDot second = true := by
  have hsplit (xs ys : List Char) (h : segment.map Char.toLower = xs ++ ys)
      (hxs : xs = ['.'] ∨ xs = ['%', '2', 'e']) (hys : ys = ['.'] ∨ ys = ['%', '2', 'e']) :
      ∃ first second, segment = first ++ second ∧ isSingleDot first = true ∧
        isSingleDot second = true := by
    obtain ⟨first, second, hsegment, rfl, rfl⟩ := List.map_eq_append_iff.1 h
    exact ⟨first, second, hsegment, by simpa [isSingleDot] using hxs,
      by simpa [isSingleDot] using hys⟩
  simp only [isDoubleDot, Bool.or_eq_true, decide_eq_true_eq] at h
  rcases h with ((h | h) | h) | h
  · exact hsplit ['.'] ['.'] h (.inl rfl) (.inl rfl)
  · exact hsplit ['.'] ['%', '2', 'e'] h (.inl rfl) (.inr rfl)
  · exact hsplit ['%', '2', 'e'] ['.'] h (.inr rfl) (.inl rfl)
  · exact hsplit ['%', '2', 'e'] ['%', '2', 'e'] h (.inr rfl) (.inr rfl)

/-- What stands for the place above is decoded as two dots. -/
theorem percentDecode_of_isDoubleDot (h : isDoubleDot segment = true) :
    Text.percentDecode segment = Text.utf8 ".." := by
  obtain ⟨first, second, rfl, hfirst, hsecond⟩ := exists_of_isDoubleDot h
  rw [percentDecode_append_of_isSingleDot hfirst, percentDecode_of_isSingleDot hsecond]
  rfl

/-! ## Segments -/

/-- The places on the way after more segments, of which none is the last. -/
def descend : List (List Char) → List (List Char) → List (List Char)
  | kept, [] => kept
  | kept, segment :: rest =>
    if isDoubleDot segment then descend (up kept) rest
    else if isSingleDot segment then descend kept rest
    else descend (segment :: kept) rest

theorem walk_append (kept xs : List (List Char)) {ys : List (List Char)} (hys : ys ≠ []) :
    walk List.cons kept (xs ++ ys) = walk List.cons (descend kept xs) ys := by
  induction xs generalizing kept with
  | nil => rfl
  | cons x xs ih =>
    have hne : xs ++ ys ≠ [] := List.append_ne_nil_of_right_ne_nil _ hys
    obtain ⟨z, zs, hzs⟩ := List.exists_cons_of_ne_nil hne
    simp only [descend]
    rw [List.cons_append, hzs, walk, ← hzs]
    · split
      · exact ih _
      · split <;> exact ih _
    · exact List.cons_ne_nil _ _

/-- Without dots, a path leads where it says. -/
theorem walk_of_no_dots (kept : List (List Char))
    (h : ∀ s ∈ segments, isDoubleDot s = false ∧ isSingleDot s = false) :
    walk List.cons kept segments = kept.reverse ++ segments := by
  induction segments generalizing kept with
  | nil => rw [walk, List.append_nil]
  | cons s segments ih =>
    rw [List.forall_mem_cons] at h
    have hkeep : (s :: kept).reverse ++ segments = kept.reverse ++ s :: segments := by
      rw [List.reverse_cons, List.append_assoc, List.singleton_append]
    have hstep : walk List.cons kept (s :: segments) = walk List.cons (s :: kept) segments := by
      cases segments with
      | nil => simp [walk, h.1.1, h.1.2]
      | cons t segments => simp [walk, h.1.1, h.1.2]
    rw [hstep, ih (s :: kept) h.2, hkeep]

theorem mem_up {s : List Char} (h : s ∈ up kept) : s ∈ kept := by
  cases kept with
  | nil => exact h
  | cons first kept =>
    rw [up] at h
    split at h
    · exact h
    · exact List.mem_cons_of_mem _ h

theorem mem_descend {s : List Char} {xs : List (List Char)} (h : s ∈ descend kept xs) :
    s ∈ kept ∨ s ∈ xs := by
  induction xs generalizing kept with
  | nil => exact .inl h
  | cons x xs ih =>
    rw [descend] at h
    split at h
    · exact (ih h).imp mem_up (List.mem_cons_of_mem _)
    · split at h
      · exact (ih h).imp_right (List.mem_cons_of_mem _)
      · rcases ih h with h | h
        · rcases List.mem_cons.1 h with rfl | h
          · exact .inr List.mem_cons_self
          · exact .inl h
        · exact .inr (List.mem_cons_of_mem _ h)

/-- At the end of a path stands its last segment, or nothing, if that has been carried out. -/
theorem walk_concat (kept init : List (List Char)) (segment : List Char) :
    ∃ (front : List (List Char)) (last : List Char), (∀ s ∈ front, s ∈ kept ∨ s ∈ init) ∧
      walk List.cons kept (init ++ [segment]) = front.reverse ++ [last] ∧
      (last = [] ∨ last = segment ∧ isDoubleDot segment = false ∧ isSingleDot segment = false) := by
  have hon (front : List (List Char)) (h : ∀ s ∈ front, s ∈ descend kept init) :
      ∀ s ∈ front, s ∈ kept ∨ s ∈ init := fun s hs => mem_descend (h s hs)
  rw [walk_append kept init (List.cons_ne_nil _ _), walk]
  cases hdouble : isDoubleDot segment with
  | true => exact ⟨_, [], hon _ fun _ => mem_up, List.reverse_cons, .inl rfl⟩
  | false =>
    cases hsingle : isSingleDot segment with
    | true => exact ⟨_, [], hon _ fun _ => id, List.reverse_cons, .inl rfl⟩
    | false => exact ⟨_, segment, hon _ fun _ => id, List.reverse_cons, .inr ⟨rfl, rfl, rfl⟩⟩

/-! ## Text -/

theorem toList_text (segments : List (List Char)) :
    (text segments).toList = segments.flatMap fun s => '/' :: s :=
  String.toList_ofList

@[simp] theorem text_nil : text [] = "" :=
  rfl

theorem text_cons (s : List Char) (segments : List (List Char)) :
    text (s :: segments) = "/" ++ String.ofList s ++ text segments := by
  rw [text, List.flatMap_cons, String.ofList_append, ← List.singleton_append, String.ofList_append]
  rfl

theorem text_append (xs ys : List (List Char)) : text (xs ++ ys) = text xs ++ text ys := by
  rw [text, List.flatMap_append, String.ofList_append]
  rfl

/-- The segments are the parts of the text behind its first slash. -/
theorem parts_toList_text (h : ∀ s ∈ segments, '/' ∉ s) :
    Text.parts (· = '/') (text segments).toList = [] :: segments := by
  rw [toList_text]
  induction segments with
  | nil => rfl
  | cons s segments ih =>
    rw [List.forall_mem_cons] at h
    have hs : ∀ c ∈ s, decide (c = '/') = false := by
      intro c hc
      exact decide_eq_false fun heq => h.1 (heq ▸ hc)
    rw [List.flatMap_cons, List.cons_append, Text.parts, if_pos (by decide),
      Text.parts_append hs (ih h.2), List.append_nil]

theorem text_injective {xs ys : List (List Char)} (hxs : ∀ s ∈ xs, '/' ∉ s)
    (hys : ∀ s ∈ ys, '/' ∉ s) (h : text xs = text ys) : xs = ys := by
  have hparts := parts_toList_text hxs
  rw [h, parts_toList_text hys] at hparts
  exact (List.cons.inj hparts).2.symm

end Path

end Payments.Url
