import Payments.Calendar.Epoch
import Payments.Proofs.Text.Digits

/-!
# Payments.Proofs.Calendar.Text -- what the text of a time is read as

Each part of a time is written with a fixed number of digits and a mark behind it, so each reader of
a part takes just what was written of it and leaves the rest. Put together, the text of an instant
is read as that instant (`Instant.ofText?_toText`), and so is that of a local time.

There is one exception. A leap second is a fraction of a whole second or more, and it is written as
the second after; this is told from that second only at the end of a minute, where it is written as
second 60. A time with such a fraction anywhere else is read as the second after it
(`Instant.reread`). No clock and no text gives one: offsets are whole minutes, so a leap second that
was read from text stays at the end of its minute (`Instant.Obtainable.reread`).
-/

namespace Payments

open Text (isBlank trimStart)

theorem isBlank_of_isDigit {c : Char} (h : c.isDigit = true) : isBlank c = false := by
  have hrange : 48 ≤ c.toNat ∧ c.toNat ≤ 57 := by
    simpa [Char.isDigit, UInt32.le_iff_toNat_le] using h
  simp only [isBlank]
  simp
  omega

theorem ofDigitChars_lt (ds : List Char) (hd : ∀ c ∈ ds, c.isDigit = true) (n : Nat) :
    Nat.ofDigitChars 10 ds n < tenTo ds.length * (n + 1) := by
  induction ds generalizing n with
  | nil =>
    show n < 1 * (n + 1)
    omega
  | cons c ds ih =>
    have hrange : 48 ≤ c.toNat ∧ c.toNat ≤ 57 := by
      simpa [Char.isDigit, UInt32.le_iff_toNat_le] using hd c (by simp)
    have hdigit : c.toNat - '0'.toNat ≤ 9 := by
      simp
      omega
    rw [Nat.ofDigitChars_cons, List.length_cons]
    calc Nat.ofDigitChars 10 ds (10 * n + (c.toNat - '0'.toNat))
        < tenTo ds.length * (10 * n + (c.toNat - '0'.toNat) + 1) :=
          ih (fun x hx => hd x (by simp [hx])) _
      _ ≤ tenTo ds.length * (10 * (n + 1)) := Nat.mul_le_mul_left _ (by omega)
      _ = tenTo (ds.length + 1) * (n + 1) := (Nat.mul_assoc _ _ _).symm

namespace Calendar

/-! ## Parts of a time -/

@[simp] theorem trimStart_nil : trimStart [] = [] := rfl

theorem trimStart_cons {c : Char} (h : isBlank c = false) (cs : List Char) :
    trimStart (c :: cs) = c :: cs := by
  simp [trimStart, h]

theorem trimStart_padded (width n : Nat) (rest : List Char) :
    trimStart (padded width n ++ rest) = padded width n ++ rest := by
  obtain ⟨c, cs, h, hc⟩ := padded_eq_cons width n
  rw [h, List.cons_append, trimStart_cons (isBlank_of_isDigit hc)]

/-- A number is taken with all its digits, if they are as many as may be taken or no digit follows.
-/
theorem number?_append {ds rest : List Char} {width : Nat} (hd : ∀ c ∈ ds, c.isDigit = true)
    (hne : ds ≠ []) (hw : ds.length ≤ width) (hr : ds.length = width ∨ StopsDigits rest) :
    number? width (ds ++ rest) = some (Nat.ofDigitChars 10 ds 0, rest) := by
  have htake : ((ds ++ rest).take width).takeWhile Char.isDigit = ds := by
    rw [List.take_append, List.take_of_length_le hw]
    apply takeWhile_isDigit_append hd
    rcases hr with rfl | hr
    · simp
    · intro c cs hcs
      cases rest with
      | nil => simp at hcs
      | cons d rest =>
        cases hk : width - ds.length with
        | zero => simp [hk] at hcs
        | succ k =>
          simp only [hk, List.take_succ_cons, List.cons.injEq] at hcs
          exact hr c rest (by rw [hcs.1])
  simp [number?, htake, hne]

/-- A number of two digits is taken as it was written. -/
theorem field?_padded {n : Nat} (h : n < 100) (rest : List Char) :
    field? 2 (padded 2 n ++ rest) = some (n, rest) := by
  have hlength : (padded 2 n).length = 2 := length_padded (by decide) h
  rw [field?, trimStart_padded, number?_append (fun c hc => isDigit_of_mem_padded hc)
    (padded_ne_nil 2 n) (Nat.le_of_eq hlength) (.inl hlength), ofDigitChars_padded]

theorem mark?_cons {c : Char} (h : isBlank c = false) (rest : List Char) :
    mark? c (c :: rest) = some rest := by
  simp [mark?, trimStart_cons h]

/-! ## Dates -/

/-- A signed year is taken up to the first character that is no digit. -/
theorem number?_year (n : Nat) {rest : List Char} (hr : StopsDigits rest) :
    number? (padded 4 n ++ rest).length (padded 4 n ++ rest) = some (n, rest) := by
  rw [number?_append (fun c hc => isDigit_of_mem_padded hc) (padded_ne_nil 4 n) (by simp)
    (.inr hr), ofDigitChars_padded]

theorem year?_yearChars (y : Int) {rest : List Char} (hr : StopsDigits rest) :
    year? (yearChars y ++ rest) = some (y, rest) := by
  unfold yearChars year?
  by_cases hneg : y < 0
  · have habs : -((y.natAbs : Nat) : Int) = y := by omega
    simp only [hneg, if_true, List.cons_append, List.nil_append]
    rw [trimStart_cons (by decide)]
    simp only [number?_year y.natAbs hr, Option.map_some, habs]
  · have habs : ((y.natAbs : Nat) : Int) = y := by omega
    by_cases hbig : 9999 < y
    · simp only [hneg, if_false, hbig, if_true, List.cons_append, List.nil_append]
      rw [trimStart_cons (by decide)]
      simp only [number?_year y.natAbs hr, Option.map_some, habs]
    · -- four digits without a sign
      simp only [hneg, hbig, if_false, List.nil_append, trimStart_padded]
      have hlength : (padded 4 y.natAbs).length = 4 :=
        length_padded (by decide) (show y.natAbs < 10000 by omega)
      have hnumber : number? 4 (padded 4 y.natAbs ++ rest) = some (y.natAbs, rest) := by
        rw [number?_append (fun c hc => isDigit_of_mem_padded hc) (padded_ne_nil 4 _)
          (Nat.le_of_eq hlength) (.inr hr), ofDigitChars_padded]
      obtain ⟨c, cs, hcs, hc⟩ := padded_eq_cons 4 y.natAbs
      rw [hcs, List.cons_append] at hnumber ⊢
      split
      · simp_all
      · simp_all
      · simp only [hnumber, Option.map_some, habs]

/-- The text of a date is read as the date, whatever comes behind it. -/
theorem date?_dateChars (d : Date) (rest : List Char) :
    date? (dateChars d ++ rest) = some (d, rest) := by
  obtain ⟨year, month, day, hday⟩ := d
  have hmonth : month < 100 := by
    have := hday.2.2.2.1
    omega
  have hdays : day < 100 := by
    have := Date.day_lt ⟨year, month, day, hday⟩
    simp only at this
    omega
  simp only [date?, dateChars, List.append_assoc, List.cons_append]
  rw [year?_yearChars year (stopsDigits_cons.2 (by decide))]
  simp only [Option.bind_eq_bind, Option.bind_some, mark?_cons (c := '-') (by decide),
    field?_padded hmonth, field?_padded hdays, Date.of?, hday, dif_pos]

/-! ## Times of day -/

/-- What a second of the day with a fraction is read as: a leap second is told from the second after
it at the end of a minute only. -/
def settle (second nano : Nat) : Nat × Nat :=
  if 1000000000 ≤ nano ∧ second % 60 ≠ 59 then (second + 1, nano - 1000000000) else (second, nano)

theorem settle_lt {second nano : Nat} (hs : second < 86400) (hn : nano < 2000000000) :
    (settle second nano).1 < 86400 ∧ (settle second nano).2 < 2000000000 := by
  unfold settle
  split <;> simp only <;> omega

/-- What follows a fraction of a second: no digit and no point. -/
def EndsTime (rest : List Char) : Prop :=
  StopsDigits rest ∧ ∀ cs, rest ≠ '.' :: cs

theorem fraction?_of_endsTime {rest : List Char} (h : EndsTime rest) :
    fraction? rest = some (0, rest) := by
  unfold fraction?
  split
  · next cs => exact absurd rfl (h.2 cs)
  · rfl

/-- A fraction that is written with some digits is read as so many nanoseconds. -/
theorem fraction?_padded {width n : Nat} {rest : List Char} (hw : 0 < width) (h9 : width ≤ 9)
    (hn : n < tenTo width) (hr : StopsDigits rest) :
    fraction? ('.' :: (padded width n ++ rest)) = some (n * tenTo (9 - width), rest) := by
  have hlength : (padded width n).length = width := length_padded hw hn
  have hdrop : rest.dropWhile Char.isDigit = rest := by
    cases rest with
    | nil => rfl
    | cons c cs => simp [stopsDigits_cons.1 hr]
  simp only [fraction?]
  rw [number?_append (fun c hc => isDigit_of_mem_padded hc) (padded_ne_nil width n) (by omega)
    (.inr hr)]
  simp [hlength, hdrop]

theorem fraction?_fractionChars (nano : Nat) {rest : List Char} (hr : EndsTime rest) :
    fraction? (fractionChars nano ++ rest) = some (nano % 1000000000, rest) := by
  have hlt : nano % 1000000000 < 1000000000 := Nat.mod_lt _ (by decide)
  simp only [fractionChars]
  generalize nano % 1000000000 = n at hlt ⊢
  split
  · next h => simp [h, fraction?_of_endsTime hr]
  · split
    · next h =>
      have hthree : n / 1000000 < tenTo 3 := by
        show n / 1000000 < 1000
        omega
      rw [List.cons_append, fraction?_padded (by decide) (by decide) hthree hr.1]
      simp [tenTo]
      omega
    · split
      · next h =>
        have hsix : n / 1000 < tenTo 6 := by
          show n / 1000 < 1000000
          omega
        rw [List.cons_append, fraction?_padded (by decide) (by decide) hsix hr.1]
        simp [tenTo]
        omega
      · rw [List.cons_append, fraction?_padded (by decide) (by decide) hlt hr.1]
        simp [tenTo]

/-- The text of a time of day is read as that time, or as the second after a leap second that is not
at the end of a minute. -/
theorem time?_timeChars {second nano : Nat} (hs : second < 86400) (hn : nano < 2000000000)
    {rest : List Char} (hr : EndsTime rest) :
    time? (timeChars second nano ++ (fractionChars nano ++ rest)) =
      some ((settle second nano).1, (settle second nano).2, rest) := by
  have hhour : second / 3600 < 24 := by omega
  have hminute : second / 60 % 60 < 60 := Nat.mod_lt _ (by decide)
  have hleap : (if nano < 1000000000 then 0 else 1) ≤ 1 := by split <;> decide
  have hsecond : second % 60 + (if nano < 1000000000 then 0 else 1) ≤ 60 := by omega
  simp only [time?, timeChars, List.append_assoc, List.cons_append]
  rw [field?_padded (by omega)]
  simp only [Option.bind_eq_bind, Option.bind_some, mark?_cons (c := ':') (by decide)]
  rw [field?_padded (by omega)]
  simp only [Option.bind_some, mark?_cons (c := ':') (by decide)]
  rw [field?_padded (by omega)]
  simp only [Option.bind_some, fraction?_fractionChars nano hr, hhour, hminute, hsecond, and_self,
    if_true]
  -- what was written as second 60 is put back as a fraction of second 59
  unfold settle
  by_cases hnano : nano < 1000000000
  · have hne : second % 60 + 0 ≠ 60 := by omega
    simp only [hnano, if_true, if_neg hne, Nat.not_le.2 hnano, false_and, if_false]
    simp only [Option.some.injEq, Prod.mk.injEq, and_true]
    omega
  · by_cases hlast : second % 60 = 59
    · simp only [hnano, if_false, hlast, if_true, ne_eq, not_true, and_false]
      simp only [Option.some.injEq, Prod.mk.injEq, and_true]
      omega
    · have hne : second % 60 + 1 ≠ 60 := by omega
      simp only [hnano, if_false, if_neg hne, Nat.not_lt.1 hnano, hlast, ne_eq, not_false_iff,
        and_self, if_true]
      simp only [Option.some.injEq, Prod.mk.injEq, and_true]
      omega

end Calendar

open Calendar

/-! ## Instants -/

namespace Instant

/-- What the text of the instant is read as. -/
def reread (t : Instant) : Instant where
  date := t.date
  second := (settle t.second t.nano).1
  nano := (settle t.second t.nano).2
  second_lt := (settle_lt t.second_lt t.nano_lt).1
  nano_lt := (settle_lt t.second_lt t.nano_lt).2

/-- The instant is no leap second, or one at the end of a minute. -/
theorem reread_eq_self_iff {t : Instant} :
    t.reread = t ↔ t.nano < 1000000000 ∨ t.second % 60 = 59 := by
  obtain ⟨date, second, nano, hs, hn⟩ := t
  simp only [reread, settle, mk.injEq, true_and]
  constructor
  · intro h
    by_cases hamid : 1000000000 ≤ nano ∧ second % 60 ≠ 59
    · rw [if_pos hamid] at h
      simp at h
    · omega
  · intro h
    rw [if_neg (by omega)]
    simp

/-- The text of an instant is read as the instant, but for a leap second amid a minute. -/
theorem ofText?_toText (t : Instant) : ofText? t.toText = some t.reread := by
  have hends : EndsTime ['Z'] := ⟨stopsDigits_cons.2 (by decide), by simp⟩
  have hoffset : offset? (trimStart ['Z']) = some (0, []) := by decide
  simp only [ofText?, toText, String.toList_ofList, List.append_assoc, List.cons_append]
  rw [date?_dateChars]
  simp only [Option.bind_eq_bind, Option.bind_some]
  rw [time?_timeChars t.second_lt t.nano_lt hends]
  simp only [Option.bind_some, hoffset]
  have hlt := settle_lt t.second_lt t.nano_lt
  have hshift : shiftSecond? t.date (settle t.second t.nano).1 (-0) =
      some (t.date, (settle t.second t.nano).1) := by
    simp only [shiftSecond?]
    rw [if_neg (by omega), if_neg (by omega)]
    simp
  simp only [ofLocal?, hshift, Option.bind_eq_bind, Option.bind_some, of?, hlt, and_self, dif_pos]
  rfl

end Instant

/-! ## Local times -/

namespace LocalTime

/-- What the text of the local time is read as. -/
def reread (t : LocalTime) : LocalTime where
  date := t.date
  second := (settle t.second t.nano).1
  nano := (settle t.second t.nano).2
  second_lt := (settle_lt t.second_lt t.nano_lt).1
  nano_lt := (settle_lt t.second_lt t.nano_lt).2

theorem reread_of_settled {t : LocalTime} (h : settle t.second t.nano = (t.second, t.nano)) :
    t.reread = t := by
  obtain ⟨date, second, nano, hs, hn⟩ := t
  simp only at h
  simp [reread, h]

/-- The text of a local time is read as the time, but for a leap second amid a minute. -/
theorem ofText?_toText (t : LocalTime) : ofText? t.toText = some t.reread := by
  have hends : EndsTime [] := ⟨stopsDigits_nil, by simp⟩
  have htime := time?_timeChars t.second_lt t.nano_lt hends
  rw [List.append_nil] at htime
  simp only [ofText?, toText, String.toList_ofList, List.append_assoc, List.cons_append]
  rw [date?_dateChars]
  simp only [Option.bind_eq_bind, Option.bind_some, mark?_cons (c := 'T') (by decide), htime]
  simp [of?, settle_lt t.second_lt t.nano_lt, reread]

end LocalTime

/-! ## What clocks and texts give -/

namespace Calendar

/-- The fraction of a second that is read is less than a second. -/
theorem fraction?_lt {cs rest : List Char} {nano : Nat} (h : fraction? cs = some (nano, rest)) :
    nano < 1000000000 := by
  unfold fraction? at h
  split at h
  · next cs =>
    simp only [number?] at h
    split at h
    · simp at h
    · next hne =>
      generalize hds : (cs.take 9).takeWhile Char.isDigit = ds at h hne
      have hdigit : ∀ c ∈ ds, c.isDigit = true := by
        intro c hc
        rw [← hds] at hc
        exact List.all_eq_true.1 List.all_takeWhile c hc
      have hprefix : ds.length ≤ 9 ∧ ds.length ≤ cs.length := by
        have := (List.takeWhile_prefix (p := Char.isDigit) (l := cs.take 9)).length_le
        rw [hds, List.length_take] at this
        omega
      simp only [Option.bind_eq_bind, Option.bind_some, Option.some.injEq, Prod.mk.injEq,
        List.length_drop] at h
      obtain ⟨rfl, -⟩ := h
      have hplaces : cs.length - (cs.length - ds.length) = ds.length := by omega
      have hlt := ofDigitChars_lt ds hdigit 0
      rw [hplaces]
      have hpow : tenTo ds.length * tenTo (9 - ds.length) = 1000000000 := by
        have hnine : ds.length + (9 - ds.length) = 9 := by omega
        rw [← tenTo_add, hnine]
      rw [← hpow]
      exact Nat.mul_lt_mul_of_pos_right (by omega) (tenTo_pos _)
  · cases h
    decide

/-- A time of day that is read is no leap second amid a minute. -/
theorem settled_of_time? {cs rest : List Char} {second nano : Nat}
    (h : time? cs = some (second, nano, rest)) : nano < 1000000000 ∨ second % 60 = 59 := by
  simp only [time?, Option.bind_eq_bind, Option.bind_eq_some_iff] at h
  obtain ⟨⟨hour, cs1⟩, -, cs2, -, ⟨minute, cs3⟩, -, cs4, -, ⟨s, cs5⟩, -, ⟨n, cs6⟩, hn, hrest⟩ := h
  have hlt := fraction?_lt hn
  simp only at hrest
  split at hrest
  · split at hrest
    · simp only [Option.some.injEq, Prod.mk.injEq] at hrest
      right
      omega
    · simp only [Option.some.injEq, Prod.mk.injEq] at hrest
      left
      omega
  · cases hrest

theorem dvd_of_signedOffset? {sign : Int} {cs rest : List Char} {offset : Int}
    (h : signedOffset? sign cs = some (offset, rest)) : 60 ∣ offset := by
  unfold signedOffset? at h
  split at h
  · simp only [Option.bind_eq_bind, Option.bind_eq_some_iff] at h
    obtain ⟨hours, -, h⟩ := h
    split at h
    · simp only [Option.bind_eq_some_iff] at h
      obtain ⟨minutes, -, h⟩ := h
      simp only [Option.some.injEq, Prod.mk.injEq] at h
      obtain ⟨rfl, -⟩ := h
      exact Int.dvd_mul_of_dvd_right (by omega)
    · cases h
  · cases h

/-- Offsets are whole minutes. -/
theorem dvd_of_offset? {cs rest : List Char} {offset : Int}
    (h : offset? cs = some (offset, rest)) : 60 ∣ offset := by
  unfold offset? at h
  split at h
  · cases h
    simp
  · cases h
    simp
  · cases h
    simp
  · exact dvd_of_signedOffset? h
  · exact dvd_of_signedOffset? h
  · exact dvd_of_signedOffset? h
  · cases h

end Calendar

namespace Instant

/-- A shift by whole minutes, less than a day of them, keeps the second of the minute. -/
theorem mod_of_shiftSecond? {date date' : Date} {second second' : Nat} {shift : Int}
    (h : shiftSecond? date second shift = some (date', second')) (hshift : 60 ∣ shift)
    (hday : shift.natAbs < 86400) : second' % 60 = second % 60 := by
  simp only [shiftSecond?] at h
  split at h
  · simp only [Option.map_eq_some_iff, Prod.mk.injEq] at h
    obtain ⟨-, -, -, rfl⟩ := h
    omega
  · split at h
    · simp only [Option.map_eq_some_iff, Prod.mk.injEq] at h
      obtain ⟨-, -, -, rfl⟩ := h
      omega
    · simp only [Option.some.injEq, Prod.mk.injEq] at h
      omega

/-- An instant that was read from text is read from its own text again. -/
theorem reread_of_ofText? {s : String} {t : Instant} (h : ofText? s = some t) : t.reread = t := by
  -- what is read behind the date decides, whichever mark parts them
  have behind {date : Date} {cs : List Char} (h : ((time? cs).bind fun time =>
      (offset? (trimStart time.2.2)).bind fun offset =>
        if (trimStart offset.2).isEmpty ∧ offset.1.natAbs < 86400 then
          ofLocal? date time.1 time.2.1 offset.1
        else none) = some t) : t.reread = t := by
    simp only [Option.bind_eq_some_iff] at h
    obtain ⟨⟨second, nano, cs3⟩, htime, ⟨offset, cs4⟩, hoffset, h⟩ := h
    simp only at h
    split at h
    · next hend =>
      simp only [ofLocal?, Option.bind_eq_bind, Option.bind_eq_some_iff] at h
      obtain ⟨⟨date', second'⟩, hshift, h⟩ := h
      have hmod := mod_of_shiftSecond? hshift (Int.dvd_neg.2 (dvd_of_offset? hoffset))
        (by rw [Int.natAbs_neg]; exact hend.2)
      have hsettled := settled_of_time? htime
      simp only [of?] at h
      split at h
      · cases h
        rw [reread_eq_self_iff]
        simp only
        omega
      · cases h
    · cases h
  simp only [ofText?, Option.bind_eq_bind, Option.bind_eq_some_iff] at h
  obtain ⟨⟨date, cs1⟩, -, h⟩ := h
  split at h
  · exact behind h
  · exact behind h
  · exact behind h
  · cases h

/-- The instants that come up: the clock shows them, or a text that is read does. -/
inductive Obtainable (t : Instant) : Prop where
  | clock (seconds nanoseconds : Nat) (h : nanoseconds < 1000000000)
      (ht : ofEpoch? seconds nanoseconds = some t)
  | text (s : String) (ht : ofText? s = some t)

theorem Obtainable.reread {t : Instant} (h : t.Obtainable) : t.reread = t := by
  cases h with
  | clock seconds nanoseconds hnano ht =>
    simp only [ofEpoch?, Option.bind_eq_bind, Option.bind_eq_some_iff] at ht
    obtain ⟨date, -, ht⟩ := ht
    simp only [of?] at ht
    split at ht
    · cases ht
      exact reread_eq_self_iff.2 (.inl hnano)
    · cases ht
  | text s ht => exact reread_of_ofText? ht

end Instant

/-- A local time that was read from text is read from its own text again. -/
theorem LocalTime.reread_of_ofText? {s : String} {t : LocalTime} (h : ofText? s = some t) :
    t.reread = t := by
  simp only [ofText?, Option.bind_eq_bind, Option.bind_eq_some_iff] at h
  obtain ⟨⟨date, cs1⟩, -, cs2, -, ⟨second, nano, cs3⟩, htime, h⟩ := h
  simp only at h
  split at h
  · simp only [of?] at h
    split at h
    · cases h
      apply reread_of_settled
      have := settled_of_time? htime
      rw [settle, if_neg]
      simp only
      omega
    · cases h
  · cases h

end Payments
