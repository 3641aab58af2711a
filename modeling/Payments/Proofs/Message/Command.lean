import Payments.Proofs.Json.Order
import Payments.Proofs.Message.Records

/-!
# Payments.Proofs.Message.Command -- what a command is read as

A command is written as its contents with the type in front of them. The reader takes the type out
wherever it stands and reads the rest as the contents of that type. It looks into every value before
it reads the contents, so the values have to be sound, which plain values are. A command is then
read as its contents are, and keeps its type (`Command.codec_gives`).
-/

namespace Payments

open Json (Codec Document Fault Fields Row Value)

/-! ## Amounts and times are plain -/

@[simp] theorem Decimal.codec_isPlain : Decimal.codec.IsPlain := fun _ => trivial

@[simp] theorem Instant.codec_isPlain : Instant.codec.IsPlain := fun _ => trivial

@[simp] theorem LocalTime.codec_isPlain : LocalTime.codec.IsPlain := fun _ => trivial

namespace Command

/-- The command with its amounts and times changed. -/
def revise (v : Revision) : Command → Command
  | .register r => .register (r.revise v)
  | .refund r => .refund (r.revise v)

/-- The amounts of the command. -/
def amounts : Command → List Decimal
  | .register r => r.amounts
  | .refund _ => []

@[simp] theorem amounts_revise (v : Revision) (c : Command) :
    (c.revise v).amounts = c.amounts.map v.amount := by
  cases c <;> rfl

theorem revise_of_amounts {f : Decimal → Decimal} {c : Command} (h : ∀ d ∈ c.amounts, f d = d) :
    c.revise (.ofAmounts f) = c := by
  cases c with
  | register r => exact congrArg Command.register (Registration.revise_of_amounts h)
  | refund r => exact congrArg Command.refund (r.revise_ofAmounts f)

/-! ## Reading what was written -/

/-- Once the type is known, plain values are kept as they are. -/
theorem collect_of_isPlain (kind : Kind) {entries : List (String × Value)}
    (hexact : ∀ e ∈ entries, e.2.IsExact) (hplain : ∀ e ∈ entries, e.2.IsPlain)
    (htype : "type" ∉ entries.map Prod.fst) (others : List (Document × Document)) :
    collect (some kind) others (Json.entryDocuments entries) =
      .ok (some kind, others.reverse ++ Json.entryDocuments entries) := by
  induction entries generalizing others with
  | nil => simp [Json.entryDocuments, collect]
  | cons e entries ih =>
    obtain ⟨key, v⟩ := e
    rw [List.map_cons, List.mem_cons, not_or] at htype
    have hfits := (hplain (key, v) List.mem_cons_self).fits depthLimit
    have hsound : checkSound v.document = .ok () := by
      rw [checkSound, Value.ofDocument_document (hexact (key, v) List.mem_cons_self) hfits]
      rfl
    have hothers := ih (fun x hx => hexact x (by simp [hx])) (fun x hx => hplain x (by simp [hx]))
      htype.2 ((.text key, v.document) :: others)
    rw [Json.entryDocuments, collect]
    · rw [hsound]
      show collect (some kind) ((.text key, v.document) :: others) _ = _
      rw [hothers]
      simp
    · intro h
      exact htype.1 h.symm

/-- A type in front of the fields of a record is taken out again. -/
theorem read_typed {α : Type} {c : Codec α} {αs : List Type} {fs : Fields α αs}
    {build : Row αs → Except Fault α} (hc : c = .record fs build) {name : String} (kind : Kind)
    (hname : readKind (.text name) = .ok kind) (htype : "type" ∉ fs.names) (hplain : fs.ArePlain)
    {a : α} (hexact : (c.write a).IsExact) :
    read (Value.object (("type", .text name) :: fs.write a)).document =
      readContents kind (c.write a).document := by
  subst hc
  have hcollect := collect_of_isPlain kind (Json.entriesAreExact_iff.1 hexact) hplain.write
    (fun hmem => htype ((fs.map_fst_write_sublist a).subset hmem)) []
  simp only [Value.document, Json.entryDocuments, read, collect, hname]
  show (collect (some kind) [] (Json.entryDocuments (fs.write a)) >>= _) = _
  rw [hcollect]
  rfl

theorem codec_gives (c : Command) : codec.Gives c (c.revise .reread) := by
  cases c with
  | register r =>
    have h := r.codec_gives
    refine ⟨⟨trivial, h.exact⟩, Eq.trans (read_typed (c := Registration.codec) rfl
      .register rfl (by decide) (by simp [Fields.ArePlain]) h.exact) ?_⟩
    simp [readContents, h.reads, Except.map, revise]
  | refund r =>
    have h := r.codec_gives
    refine ⟨⟨trivial, h.exact⟩, Eq.trans (read_typed (c := RefundRequest.codec) rfl
      .refund rfl (by decide) (by simp [Fields.ArePlain]) h.exact) ?_⟩
    simp [readContents, h.reads, Except.map, revise]

/-! ## What can be read at all -/

/-- The contents of a command were read as a registration or as a refund request. -/
theorem of_readContents {kind : Kind} {d : Document} {c : Command}
    (h : readContents kind d = .ok c) :
    (∃ r, Registration.codec.read d = .ok r ∧ c = .register r) ∨
      ∃ r, RefundRequest.codec.read d = .ok r ∧ c = .refund r := by
  cases kind with
  | register =>
    cases hr : Registration.codec.read d with
    | ok r =>
      simp only [readContents, hr, Except.map, Except.ok.injEq] at h
      exact .inl ⟨r, rfl, h.symm⟩
    | error fault => cases fault <;> simp [readContents, hr, Except.map] at h
  | refund =>
    cases hr : RefundRequest.codec.read d with
    | ok r =>
      simp only [readContents, hr, Except.map, Except.ok.injEq] at h
      exact .inr ⟨r, rfl, h.symm⟩
    | error fault => cases fault <;> simp [readContents, hr, Except.map] at h

/-- A command is read by way of its contents. -/
theorem exists_readContents {d : Document} {c : Command} (h : codec.read d = .ok c) :
    ∃ kind d', readContents kind d' = .ok c := by
  replace h : read d = .ok c := h
  unfold read at h
  split at h
  · obtain ⟨⟨kind, others⟩, -, h⟩ := Except.bind_eq_ok.1 h
    simp only at h
    split at h
    · cases h
    · split at h
      · cases h
      · exact ⟨_, _, h⟩
  · cases h
  · obtain ⟨kind, -, h⟩ := Except.bind_eq_ok.1 h
    obtain ⟨-, -, h⟩ := Except.bind_eq_ok.1 h
    split at h
    · cases h
    · exact ⟨_, _, h⟩
  · cases h

theorem revise_of_read {d : Document} {c : Command} (h : codec.read d = .ok c) :
    c.revise .reread = c.revise (.ofAmounts Decimal.reread) := by
  obtain ⟨kind, d', hcontents⟩ := exists_readContents h
  rcases of_readContents hcontents with ⟨r, -, rfl⟩ | ⟨r, hr, rfl⟩
  · exact congrArg Command.register r.revise_reread
  · exact congrArg Command.refund (RefundRequest.revise_of_read hr)

end Command

end Payments
