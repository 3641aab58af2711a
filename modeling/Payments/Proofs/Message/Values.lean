import Payments.Command
import Payments.EventLog
import Payments.Gateway.Message
import Payments.Proofs.Calendar.Text
import Payments.Proofs.Decimal.Text
import Payments.Proofs.Json.Codec

/-!
# Payments.Proofs.Message.Values -- what the values in messages are read as

The values that messages are made of, as far as they are no records: texts, truth values, amounts,
times, identities and names. Each has one lemma, of the form `c.Gives a b ↔ b = ...`, that says as
what its text is read. These lemmas and those about the fields that hold the values are simplifying
rules, so that the fields of a record are gone through by `simp`.
-/

namespace Payments

theorem Option.map_eq_self_of_mem {α : Type} {f : α → α} {o : Option α} (h : ∀ a ∈ o, f a = a) :
    o.map f = o := by
  simpa using Option.map_congr (g := id) h

namespace Json

open Codec

variable {α ρ : Type}

/-- Only one value is read of what was written. -/
theorem Codec.Gives.iff {c : Codec α} {a b : α} (h : c.Gives a b) {b' : α} :
    c.Gives a b' ↔ b' = b := by
  constructor
  · intro h'
    exact Except.ok.inj (h'.reads.symm.trans h.reads)
  · rintro rfl
    exact h

/-! ## Fields -/

variable {field : String} {c : Codec α} {r r' : ρ}

@[simp] theorem Field.gives_required {get : ρ → α} :
    (Field.required field c get).Gives r r' ↔ c.Gives (get r) (get r') := by
  simp [Field.Gives, Field.required]

@[simp] theorem Field.gives_optional {get : ρ → Option α} :
    (Field.optional field c get).Gives r r' ↔ c.optional.Gives (get r) (get r') := by
  simp [Field.Gives, Field.optional]

@[simp] theorem Field.gives_defaulted {get : ρ → α} {absent : α} :
    (Field.defaulted field c get absent).Gives r r' ↔ c.Gives (get r) (get r') := by
  simp [Field.Gives, Field.defaulted]

@[simp] theorem Field.gives_lenient {get : ρ → Option α} :
    (Gateway.lenient field c get).Gives r r' ↔ c.optional.Gives (get r) (get r') := by
  simp [Gateway.lenient]

/-- A field that is left out when it has no value has none when it is absent. -/
@[simp] theorem Field.gives_lenient_shown {get : ρ → Option α} :
    Field.Gives { Gateway.lenient field c get with shown := Option.isSome } r r' ↔
      ((get r).isSome = true → c.optional.Gives (get r) (get r')) ∧
        ((get r).isSome = false → get r' = none) := by
  show (_ → _) ∧ (_ → some none = some (get r')) ↔ _
  rw [Option.some.injEq, eq_comm (a := none)]
  rfl

@[simp] theorem Field.yields_required {get : ρ → α} {a : α} :
    (Field.required field c get).Yields a ↔ ∃ d, c.read d = .ok a := by
  simp [Field.Yields, Field.required, Field.absent?]

/-- A value that may be absent was read or is what its absence stands for. -/
theorem Field.yields_defaulted {get : ρ → α} {absent a : α} :
    (Field.defaulted field c get absent).Yields a ↔ (∃ d, c.read d = .ok a) ∨ a = absent := by
  simp [Field.Yields, Field.defaulted, Field.absent?, eq_comm]

/-- A value that may be missing, in whatever way, was read if it is there. -/
theorem Field.read_of_yields {f : Field ρ (Option α)} (hcodec : f.codec = c.optional)
    (habsent : f.absent? = some none) {o : Option α} (h : f.Yields o) {a : α} (ha : a ∈ o) :
    ∃ d, c.read d = .ok a := by
  rcases h with ⟨d, hd⟩ | h
  · exact read_of_optional (hcodec ▸ hd) ha
  · rw [habsent] at h
    cases h
    cases ha

/-! ## Texts and truth values -/

@[simp] theorem Codec.gives_text_iff {s t : String} : text.Gives s t ↔ t = s :=
  (gives_text s).iff

@[simp] theorem Codec.gives_flag_iff {a b : Bool} : flag.Gives a b ↔ b = a :=
  (gives_flag a).iff

@[simp] theorem Codec.gives_optional_text_iff {o o' : Option String} :
    text.optional.Gives o o' ↔ o' = o :=
  (Gives.optional_self (fun s => (nofun : Value.text s ≠ .null)) fun s _ => gives_text s).iff

end Json

open Json (Codec)

/-! ## Amounts -/

namespace Decimal

theorem codec_gives (d : Decimal) : codec.Gives d d.reread := by
  refine ⟨trivial, ?_⟩
  show codec.read (.text d.toText) = _
  simp [codec, ofText?_toText]

@[simp] theorem codec_gives_iff {d d' : Decimal} : codec.Gives d d' ↔ d' = d.reread :=
  (codec_gives d).iff

@[simp] theorem optional_codec_gives_iff {o o' : Option Decimal} :
    codec.optional.Gives o o' ↔ o' = o.map reread :=
  (Codec.Gives.optional (fun d => (nofun : Json.Value.text d.toText ≠ .null))
    fun d _ => codec_gives d).iff

end Decimal

/-! ## Times -/

namespace Instant

theorem codec_gives (t : Instant) : codec.Gives t t.reread :=
  (Json.Codec.gives_text t.toText).refine (by rw [ofText?_toText])

@[simp] theorem codec_gives_iff {t t' : Instant} : codec.Gives t t' ↔ t' = t.reread :=
  (codec_gives t).iff

@[simp] theorem optional_codec_gives_iff {o o' : Option Instant} :
    codec.optional.Gives o o' ↔ o' = o.map reread :=
  (Codec.Gives.optional (fun t => (nofun : Json.Value.text t.toText ≠ .null))
    fun t _ => codec_gives t).iff

/-- Instants are read from texts only. -/
theorem obtainable_of_read {d : Json.Document} {t : Instant} (h : codec.read d = .ok t) :
    t.Obtainable := by
  obtain ⟨s, -, h⟩ := Except.bind_eq_ok.1 h
  cases ht : ofText? s with
  | none =>
    rw [ht] at h
    cases h
  | some t' =>
    rw [ht] at h
    cases h
    exact .text s ht

/-- An instant that may be missing is such as a clock or a text gives, if it is there. -/
theorem obtainable_of_yields {ρ : Type} {f : Json.Field ρ (Option Instant)}
    (hcodec : f.codec = codec.optional) (habsent : f.absent? = some none) {o : Option Instant}
    (h : f.Yields o) : ∀ t ∈ o, t.Obtainable := by
  intro t ht
  obtain ⟨d, hd⟩ := Json.Field.read_of_yields hcodec habsent h ht
  exact obtainable_of_read hd

/-- Obtainable instants are read as they were written. -/
theorem map_reread {o : Option Instant} (h : ∀ t ∈ o, t.Obtainable) : o.map reread = o :=
  Option.map_eq_self_of_mem fun t ht => (h t ht).reread

end Instant

namespace LocalTime

theorem codec_gives (t : LocalTime) : codec.Gives t t.reread :=
  (Json.Codec.gives_text t.toText).refine (by rw [ofText?_toText])

@[simp] theorem optional_codec_gives_iff {o o' : Option LocalTime} :
    codec.optional.Gives o o' ↔ o' = o.map reread :=
  (Codec.Gives.optional (fun t => (nofun : Json.Value.text t.toText ≠ .null))
    fun t _ => codec_gives t).iff

theorem reread_of_read {d : Json.Document} {t : LocalTime} (h : codec.read d = .ok t) :
    t.reread = t := by
  obtain ⟨s, -, h⟩ := Except.bind_eq_ok.1 h
  cases ht : ofText? s with
  | none =>
    rw [ht] at h
    cases h
  | some t' =>
    rw [ht] at h
    cases h
    exact reread_of_ofText? ht

end LocalTime

/-! ## Identities and names -/

@[simp] theorem PaymentId.optional_codec_gives_iff {o o' : Option PaymentId} :
    PaymentId.codec.optional.Gives o o' ↔ o' = o := by
  have h (i : PaymentId) : PaymentId.codec.Gives i i :=
    (Json.Codec.gives_text i.text).refine (by simp [PaymentId.of?, i.notBlank])
  exact (Codec.Gives.optional_self (fun i => (nofun : Json.Value.text i.text ≠ .null))
    fun i _ => h i).iff

@[simp] theorem Status.codec_gives_iff {s s' : Status} : Status.codec.Gives s s' ↔ s' = s :=
  (Json.Codec.gives_name (by cases s <;> rfl)).iff

@[simp] theorem Verification.codec_gives_iff {v v' : Verification} :
    Verification.codec.Gives v v' ↔ v' = v :=
  (Json.Codec.gives_name (by cases v <;> rfl)).iff

/-- The name written of an unknown state is no known one, so it is read as unknown again. -/
@[simp] theorem Gateway.Status.codec_gives_iff {s s' : Gateway.Status} :
    Gateway.Status.codec.Gives s s' ↔ s' = s :=
  (Json.Codec.gives_name (by cases s <;> rfl)).iff

@[simp] theorem EventType.codec_gives_iff {t t' : EventType} :
    EventType.codec.Gives t t' ↔ t' = t :=
  (Json.Codec.gives_name (by cases t <;> rfl)).iff

end Payments
