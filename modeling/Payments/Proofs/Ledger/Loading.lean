import Mathlib.Data.List.DropRight
import Payments.Proofs.Ledger.Refunds
import Payments.Proofs.Message.Values

/-!
# Payments.Proofs.Ledger.Loading -- a ledger is rebuilt from its text

A ledger that is read is opened and refunded once more. A triple is loaded just if its amounts are
in order, and then as it is (`Ledger.load_eq_ok`).

That a ledger comes back from its text rests on what every ledger has in common, however many
refunds it has seen (`Ledger.Sound`): its amount is positive, nothing or a positive amount no
greater than that has been refunded, and its currency has a name without blanks around it. Such a
ledger is loaded as itself (`Ledger.Sound.load`), and its text is read as the ledger
(`Ledger.Sound.codec_gives`). So loading admits the ledgers that refunds lead to, and no others.
-/

namespace Payments

open Json (Codec Fields)

namespace Text

/-- Text that has been trimmed once has nothing left to trim. -/
@[simp] theorem trim_trim (s : String) : trim (trim s) = trim s := by
  -- dropping blanks at the end keeps the first character, unless nothing is left
  have hstart (cs : List Char) : trimStart (trimEnd (trimStart cs)) = trimEnd (trimStart cs) := by
    refine List.dropWhile_eq_self_iff.2 fun hlength hblank => ?_
    have hprefix : trimEnd (trimStart cs) <+: trimStart cs := List.rdropWhile_prefix isBlank _
    have hhead := List.IsPrefix.getElem hprefix hlength
    rw [hhead] at hblank
    exact List.dropWhile_eq_self_iff.1 (List.dropWhile_idempotent isBlank cs) _ hblank
  have hend (cs : List Char) : trimEnd (trimEnd cs) = trimEnd cs :=
    List.rdropWhile_idempotent isBlank cs
  simp only [trim, String.toList_ofList, hstart, hend]

/-- Nothing is left of a text just if it is blank. -/
theorem isEmpty_trim (s : String) : (trim s).isEmpty = isBlankText s := by
  rw [Bool.eq_iff_iff, isBlankText, List.all_eq_true]
  show (String.ofList (List.rdropWhile isBlank (s.toList.dropWhile isBlank))).isEmpty = true ↔ _
  rw [String.isEmpty_iff, String.ofList_eq_empty_iff, List.rdropWhile_eq_nil_iff]
  constructor
  · intro h
    -- what is left of the beginning is blank, and does not begin with a blank
    have hnone : s.toList.dropWhile isBlank = [] := by
      by_contra hne
      exact List.dropWhile_get_zero_not isBlank s.toList (List.length_pos_of_ne_nil hne)
        (h _ (List.getElem_mem _))
    exact List.dropWhile_eq_nil_iff.1 hnone
  · intro h c hc
    exact h c ((List.dropWhile_sublist isBlank).mem hc)

end Text

namespace Ledger

variable {l m : Ledger} {r : Decimal}

/-! ## What is loaded of a triple -/

/-- The name of a currency: what was given without blanks around it, or the default one if that is
nothing. -/
def currencyName : Option String → String
  | none => defaultCurrency
  | some currency =>
    if Text.isBlankText currency then defaultCurrency else Text.trim currency

theorem inCurrency_eq_ok {amount : Decimal} {currency : String} :
    inCurrency amount currency = .ok l ↔
      Decimal.zero < amount ∧ l = ⟨amount, Decimal.zero, currencyName (some currency)⟩ := by
  unfold inCurrency
  split
  · next hle => exact ⟨nofun, fun h => absurd h.1 (Int.not_lt.2 hle)⟩
  · next hpos =>
    simp only [currencyName, Text.isEmpty_trim]
    rw [Except.ok.injEq, eq_comm]
    exact ⟨fun h => ⟨Decimal.not_le_zero_iff.1 hpos, h⟩, fun h => h.2⟩

/-- A new ledger takes any positive amount that does not exceed its own as its first refund, and
keeps it as it is. -/
theorem refund_of_new {amount currency} :
    refund ⟨amount, Decimal.zero, currency⟩ r = .ok l ↔
      Decimal.zero < r ∧ r ≤ amount ∧ l = ⟨amount, r, currency⟩ := by
  rw [refund_eq_ok, Decimal.not_le_zero_iff]
  apply and_congr_right
  intro _
  have hsum := Decimal.zero_add? r
  constructor
  · rintro ⟨total, hadd, hle, rfl⟩
    cases hsum.symm.trans hadd
    exact ⟨Int.not_lt.1 hle, rfl⟩
  · rintro ⟨hle, rfl⟩
    exact ⟨r, hsum, Int.not_lt.2 hle, rfl⟩

/-- A triple is loaded just if its amounts are in order, and then as it is; only a zero is brought
to its plainest form. -/
theorem load_eq_ok {amount refunded : Decimal} {currency : Option String} :
    load amount refunded currency = .ok l ↔
      Decimal.zero < amount ∧ Decimal.zero ≤ refunded ∧ refunded ≤ amount ∧
        l = ⟨amount, if refunded.isZero then Decimal.zero else refunded,
          currencyName currency⟩ := by
  have hname : currencyName (some (currency.getD defaultCurrency)) = currencyName currency := by
    cases currency with
    | none => decide
    | some c => rfl
  rw [load, Except.bind_eq_ok]
  simp only [inCurrency_eq_ok, hname]
  by_cases hzero : refunded.isZero
  · -- a zero, whatever its scale and its sign, is not entered at all
    have hunits := Decimal.units_eq_zero hzero
    simp only [hzero, if_true, Except.ok.injEq]
    constructor
    · rintro ⟨opened, ⟨hpos, rfl⟩, rfl⟩
      rw [Decimal.lt_iff_units, Decimal.units_zero] at hpos
      refine ⟨hpos, ?_, ?_, rfl⟩
      · rw [Decimal.le_iff_units, hunits, Decimal.units_zero]
      · rw [Decimal.le_iff_units, hunits]
        exact Int.le_of_lt hpos
    · rintro ⟨hpos, -, -, rfl⟩
      exact ⟨_, ⟨hpos, rfl⟩, rfl⟩
  · simp only [hzero, Bool.false_eq_true, if_false]
    constructor
    · rintro ⟨opened, ⟨hpos, rfl⟩, hrefund⟩
      obtain ⟨hrefunded, hle, rfl⟩ := refund_of_new.1 hrefund
      exact ⟨hpos, Int.le_of_lt hrefunded, hle, rfl⟩
    · rintro ⟨hpos, hnonneg, hle, rfl⟩
      rw [Decimal.isZero_iff_units] at hzero
      have hrefunded : Decimal.zero < refunded := by
        rw [Decimal.le_iff_units, Decimal.units_zero] at hnonneg
        rw [Decimal.lt_iff_units, Decimal.units_zero]
        omega
      exact ⟨_, ⟨hpos, rfl⟩, refund_of_new.2 ⟨hrefunded, hle, rfl⟩⟩

/-! ## What all ledgers have in common -/

/-- What every ledger is that was opened, and refunded any number of times. -/
structure Sound (l : Ledger) : Prop extends l.Balanced where
  positive : Decimal.zero < l.amount
  begun : l.refunded = Decimal.zero ∨ Decimal.zero < l.refunded
  trimmed : Text.trim l.currency = l.currency
  named : l.currency.isEmpty = false

/-- The name of a currency has no blanks around it, and it is not empty. -/
theorem currencyName_spec (currency : Option String) :
    Text.trim (currencyName currency) = currencyName currency ∧
      (currencyName currency).isEmpty = false := by
  have hdefault :
      Text.trim defaultCurrency = defaultCurrency ∧ defaultCurrency.isEmpty = false := by
    decide
  cases currency with
  | none => exact hdefault
  | some currency =>
    rw [currencyName]
    split
    · exact hdefault
    · next hnamed => exact ⟨Text.trim_trim currency, by simpa [Text.isEmpty_trim] using hnamed⟩

theorem currencyName_of_trimmed {currency : String} (htrimmed : Text.trim currency = currency)
    (hnamed : currency.isEmpty = false) : currencyName (some currency) = currency := by
  rw [currencyName, ← Text.isEmpty_trim, htrimmed, hnamed]
  rfl

theorem sound_inCurrency {amount : Decimal} {currency : String}
    (h : inCurrency amount currency = .ok l) : l.Sound := by
  obtain ⟨-, -, hbalanced⟩ := balanced_inCurrency h
  obtain ⟨hpos, rfl⟩ := inCurrency_eq_ok.1 h
  obtain ⟨htrimmed, hnamed⟩ := currencyName_spec (some currency)
  exact ⟨hbalanced, hpos, .inl rfl, htrimmed, hnamed⟩

theorem Sound.refund (h : l.Sound) (hm : l.refund r = .ok m) : m.Sound := by
  obtain ⟨hpos, total, hadd, -, heq⟩ := refund_eq_ok.1 hm
  have hbalanced := h.toBalanced.refund hm
  have htotal := Decimal.add?_pos h.nonneg (Decimal.not_le_zero_iff.1 hpos) hadd
  subst heq
  exact ⟨hbalanced, h.positive, .inr htotal, h.trimmed, h.named⟩

/-- The ledger is what opening one and trying refunds on it, with any decimals, can lead to. -/
def IsBuilt (l : Ledger) : Prop :=
  ∃ amount currency opened rs,
    inCurrency amount currency = .ok opened ∧ opened.attemptAll rs = l

theorem Sound.attempt (h : l.Sound) (r : Decimal) : (l.attempt r).Sound := by
  unfold Ledger.attempt
  split
  · next m hm => exact h.refund hm
  · exact h

theorem Sound.attemptAll (h : l.Sound) (rs : List Decimal) : (l.attemptAll rs).Sound := by
  induction rs generalizing l with
  | nil => exact h
  | cons r rs ih => exact ih (h.attempt r)

theorem IsBuilt.sound (h : l.IsBuilt) : l.Sound := by
  obtain ⟨amount, currency, opened, rs, hopened, rfl⟩ := h
  exact (sound_inCurrency hopened).attemptAll rs

/-- What is loaded was opened, and refunded at most once. -/
theorem isBuilt_of_load {amount refunded : Decimal} {currency : Option String}
    (h : load amount refunded currency = .ok l) : l.IsBuilt := by
  obtain ⟨opened, hopened, h⟩ := Except.bind_eq_ok.1 h
  split at h
  · cases h
    exact ⟨_, _, l, [], hopened, rfl⟩
  · refine ⟨_, _, opened, [refunded], hopened, ?_⟩
    show opened.attempt refunded = l
    rw [Ledger.attempt, h]

theorem sound_load {amount refunded : Decimal} {currency : Option String}
    (h : load amount refunded currency = .ok l) : l.Sound :=
  (isBuilt_of_load h).sound

/-- A positive amount is no zero. -/
theorem isZero_of_pos {d : Decimal} (h : Decimal.zero < d) : d.isZero = false := by
  rw [Bool.eq_false_iff]
  intro hzero
  rw [Decimal.lt_iff_units, Decimal.units_zero, Decimal.units_eq_zero hzero] at h
  exact Int.lt_irrefl _ h

/-- A sound ledger is loaded as itself: its amounts are in order, and its currency is named. -/
theorem Sound.load (h : l.Sound) : load l.amount l.refunded (some l.currency) = .ok l := by
  refine load_eq_ok.2 ⟨h.positive, h.nonneg, h.le, ?_⟩
  rw [currencyName_of_trimmed h.trimmed h.named]
  rcases h.begun with hzero | hrefunded
  · rw [hzero, ite_self, ← hzero]
  · rw [isZero_of_pos hrefunded, if_neg Bool.false_ne_true]

/-- No amount of a sound ledger is a zero with a sign. -/
theorem Sound.reread (h : l.Sound) : l.amount.reread = l.amount ∧ l.refunded.reread = l.refunded :=
  ⟨Decimal.reread_of_pos h.positive, h.begun.elim (fun hzero => hzero ▸ rfl) Decimal.reread_of_pos⟩

/-- The text of a sound ledger is read as the ledger. -/
theorem Sound.codec_gives (h : l.Sound) : codec.Gives l l := by
  refine Codec.gives_record (by decide) ?fields ?build
  case fields => simp [Fields.Gives, h.reread]
  case build => simp [Fields.row, Json.Field.required, Json.Field.defaulted, h.load]

/-- What is read as a ledger is loaded from the amounts and the currency that are read. -/
theorem load_of_read {d : Json.Document} (h : codec.read d = .ok l) :
    ∃ amount refunded currency, load amount refunded currency = .ok l := by
  obtain ⟨⟨amount, refunded, currency, ⟨⟩⟩, -, hbuild⟩ := Codec.yields_of_record h
  simp only at hbuild
  split at hbuild
  · next hload =>
    cases hbuild
    exact ⟨amount, refunded, currency, hload⟩
  · cases hbuild
  · cases hbuild

/-- What is read as a ledger is sound. -/
theorem sound_of_read {d : Json.Document} (h : codec.read d = .ok l) : l.Sound := by
  obtain ⟨amount, refunded, currency, hload⟩ := load_of_read h
  exact sound_load hload

/-! ## The ledgers that can be loaded -/

/-- Loading admits the ledgers that can be built, and no others. A triple is loaded just if the
amount is positive and what was refunded lies between zero and the amount, and then the ledger has
these amounts and the currency named. A ledger comes out of some triple just if some refunds, with
any decimals and rounded or not, lead to it from a new ledger; and its own amounts and currency are
loaded as the same ledger. The same holds of what is read from JSON. -/
theorem load_admits_built :
    (∀ amount refunded currency,
      ((∃ l, load amount refunded currency = .ok l) ↔
          Decimal.zero < amount ∧ Decimal.zero ≤ refunded ∧ refunded ≤ amount) ∧
        ∀ l, load amount refunded currency = .ok l →
          l.amount = amount ∧ l.refunded ≈ refunded ∧ l.currency = currencyName currency) ∧
      (∀ l : Ledger,
        ((∃ amount refunded currency, load amount refunded currency = .ok l) ↔ l.IsBuilt) ∧
          ((∃ text, codec.parse text = .ok l) ↔ l.IsBuilt) ∧
          (l.IsBuilt → load l.amount l.refunded (some l.currency) = .ok l)) := by
  refine ⟨fun amount refunded currency => ⟨?accepted, ?loaded⟩, fun l => ⟨?triples, ?texts, ?own⟩⟩
  case accepted =>
    simp only [load_eq_ok]
    exact ⟨fun ⟨_, hpos, hnonneg, hle, _⟩ => ⟨hpos, hnonneg, hle⟩,
      fun ⟨hpos, hnonneg, hle⟩ => ⟨_, hpos, hnonneg, hle, rfl⟩⟩
  case loaded =>
    intro l h
    obtain ⟨-, -, -, rfl⟩ := load_eq_ok.1 h
    refine ⟨rfl, ?_, rfl⟩
    rw [Decimal.equiv_iff_units]
    simp only
    split
    · next hzero => rw [Decimal.units_eq_zero hzero, Decimal.units_zero]
    · rfl
  case triples =>
    exact ⟨fun ⟨_, _, _, h⟩ => isBuilt_of_load h, fun h => ⟨_, _, _, h.sound.load⟩⟩
  case texts =>
    refine ⟨fun ⟨text, h⟩ => ?_, fun h => ⟨_, h.sound.codec_gives.parse⟩⟩
    obtain ⟨d, hread⟩ := Codec.read_of_parse h
    obtain ⟨amount, refunded, currency, hload⟩ := load_of_read hread
    exact isBuilt_of_load hload
  case own => exact fun h => h.sound.load

end Ledger

end Payments
