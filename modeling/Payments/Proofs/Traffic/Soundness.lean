import Payments.Proofs.Store.Served
import Payments.Proofs.Traffic.Refund

/-!
# Payments.Proofs.Traffic.Soundness -- every account stays sound, whatever happens

Registrations and look-ups touch no account but that of a payment which is new; a deletion marks the
record that it has just read, or fails; a refund of one payment leaves all other payments alone. So
every account stays sound, whichever calls come in and in whichever order they get their answers
(`Traffic.sound_after`).
-/

namespace Payments

open Service

/-! ## The store between two requests -/

theorem Cue.grows (cue : Cue) (s : Store) (r : Request) : s.Grows (cue.answer s r).2 := by
  cases r with
  | store r =>
    cases r with
    | save p => exact Store.grows_save p cue.now (cue.supply s).2
    | delete p deletedBy => exact s.grows_update _ cue.now
    | _ => exact .refl s
  | _ => exact .refl s

theorem Cue.filed (cue : Cue) {s : Store} (h : s.Filed) (r : Request) :
    (cue.answer s r).2.Filed := by
  cases r with
  | store r => exact h.serve cue.now (cue.supply s) r
  | _ => exact h

/-! ## Calls in flight -/

/-- What a call still has to do fits the store. Of a refund this says only that it has nothing to do
if its payment has no identity; for the rest there are the accounts. -/
def Activity.Fits (s : Store) : Activity → Prop
  | ⟨.refund paymentId _ _, rest⟩ =>
    ∀ f, PaymentId.ofText paymentId = .error f → rest = .done (.error f)
  | ⟨.delete paymentId deletedBy, rest⟩ =>
    rest = (Service.delete paymentId deletedBy).run ∨
      (∃ p, s.Knows p ∧ p.isDeleted = false ∧
        rest = .ask (.store (.delete p deletedBy)) .done) ∨
      ∃ o, rest = .done o
  | ⟨_, rest⟩ => rest.Only Request.IsHarmless

theorem Activity.fits_begin (s : Store) (c : Call) : (Activity.begin c).Fits s := by
  cases c with
  | register r => exact harmless_register r
  | refund paymentId orderId reason => exact fun f hf => run_refund_of_blank orderId reason hf
  | delete paymentId deletedBy => exact Or.inl rfl
  | find paymentId => exact harmless_find paymentId
  | findByOrder orderId => exact harmless_findByOrder orderId
  | findByGatewayPayment id => exact harmless_findByGatewayPayment id
  | search c r => exact harmless_search c r
  | isVerified paymentId => exact harmless_isVerified paymentId
  | isRefundable paymentId => exact harmless_isRefundable paymentId

theorem Activity.Fits.mono {s s' : Store} {a : Activity} (h : a.Fits s) (hs : s.Grows s') :
    a.Fits s' := by
  obtain ⟨c, rest⟩ := a
  cases c with
  | delete paymentId deletedBy =>
    rcases h with h | ⟨p, hp, hd, h⟩ | h
    · exact Or.inl h
    · exact Or.inr (Or.inl ⟨p, hp.mono hs, hd, h⟩)
    · exact Or.inr (Or.inr h)
  | _ => exact h

section Asking

variable {s : Store} {r : Request} {paymentId : String}
  {next : r.Answer → Procedure (Outcome Payment)}

/-- A refund that asks for something is of an identity. -/
theorem Activity.Fits.exists_refunded {orderId reason : String}
    (h : Activity.Fits s ⟨.refund paymentId orderId reason, .ask r next⟩) :
    ∃ i : PaymentId, i.text = paymentId := by
  cases hid : PaymentId.ofText paymentId with
  | error f => cases h f hid
  | ok i => exact ⟨i, PaymentId.text_of_ofText hid⟩

/-- A deletion looks its payment up, or marks one that the store knows. -/
theorem Activity.Fits.deletes {deletedBy : String}
    (h : Activity.Fits s ⟨.delete paymentId deletedBy, .ask r next⟩) :
    (∃ i : PaymentId,
        .ask r next = Procedure.ask (.store (.findById i)) (deleting i deletedBy)) ∨
      ∃ p, s.Knows p ∧ p.isDeleted = false ∧
        .ask r next = Procedure.ask (.store (.delete p deletedBy)) .done := by
  rcases h with hr | hmarks | ⟨o, hr⟩
  · cases hid : PaymentId.ofText paymentId with
    | error f => cases hr.trans (run_delete_of_blank deletedBy hid)
    | ok i =>
      rw [← PaymentId.text_of_ofText hid] at hr
      exact .inl ⟨i, hr.trans (run_delete i deletedBy)⟩
  · exact .inr hmarks
  · cases hr

end Asking

/-! ## Accounts and other calls -/

namespace Account

variable {i : PaymentId} {a : Account} {s : Store} {n : Nat} {c : Call}

theorem Sound.idle (h : a.Sound i) {x : Exchange} (hs : s.record? i = a.record)
    (hc : x.cancels i = []) (he : x.events i = []) (hi : x.interrupts i = false) :
    (a.hear i x s).Sound i := by
  rw [hear_of_idle hs hc he hi]
  exact h

/-- A request that does no harm leaves the account alone, unless it registers the payment. -/
theorem Sound.hear_harmless (h : a.Sound i) (hs : s.record? i = a.record) {r : Request}
    (hr : r.IsHarmless) (cue : Cue) :
    (a.hear i ⟨n, c, r, (cue.answer s r).1⟩ (cue.answer s r).2).Sound i := by
  cases r with
  | now | lookup key => exact h.idle hs rfl rfl rfl
  | cancel key order => exact False.elim hr
  | publish e => exact False.elim hr
  | store r =>
    cases r with
    | delete p deletedBy => exact False.elim hr
    | save p =>
      -- a draft has no identity yet, so it gets one that no record has
      obtain ⟨fresh, hfresh, hsave⟩ : ∃ fresh, s.record? fresh = none ∧
          cue.answer s (.store (.save p)) = s.insert p fresh cue.now :=
        ⟨_, (cue.supply s).2, Store.save_of_no_id _ _ hr.id⟩
      rw [hsave]
      rcases s.insert_cases fresh cue.now hr.version with ⟨f, hf⟩ | ⟨-, -, hok⟩
      · rw [hf]
        exact h.idle hs rfl rfl rfl
      · rw [hok]
        by_cases hi : i = fresh
        · subst hi
          rw [hear_of_silent rfl rfl, Store.record?_file_self]
          show Sound i { a with
            record := some (p.inserted i cue.now), interrupted := a.interrupted || false }
          rw [Bool.or_false]
          exact h.insert (hs.symm.trans hfresh) (hr.inserted i cue.now) rfl
        · exact h.idle ((Store.record?_file_of_ne _ hi).trans hs) rfl rfl rfl
    | findById | findByOrder | findByGatewayPayment | holdsGatewayPayment | holdsOrder | search =>
      exact h.idle hs rfl rfl rfl

/-- A deletion marks the record that was read, or it fails. -/
theorem Sound.hear_delete (h : a.Sound i) (hs : s.record? i = a.record) {p : Payment}
    (hp : s.Knows p) (hd : p.isDeleted = false) (deletedBy : String) (now : Instant) :
    let result := s.delete p deletedBy now
    (a.hear i ⟨n, c, .store (.delete p deletedBy), result.1⟩ result.2).Sound i := by
  intro result
  rcases Store.update_of_copy (p := p.markDeleted deletedBy now) now hp rfl rfl with
    ⟨f, hf⟩ | ⟨j, hj, hrec, hok⟩
  · rw [show result = _ from hf]
    exact h.idle hs rfl rfl rfl
  · rw [show result = _ from hok]
    by_cases hij : i = j
    · subst hij
      rw [hear_of_silent rfl rfl, Store.record?_file_self]
      show Sound i { a with
        record := some (p.removed deletedBy now)
        interrupted := a.interrupted || (p.id == some i && p.status == .refunding) }
      rw [hj, beq_self_eq_true, Bool.true_and]
      exact h.remove (hs.symm.trans hrec) hd deletedBy now
    · refine h.idle ((Store.record?_file_of_ne _ hij).trans hs) rfl rfl ?_
      show (p.id == some i && _) = false
      rw [hj, beq_false_of_ne fun he => hij (Option.some.inj he).symm, Bool.false_and]

/-- A request of a refund of another payment leaves the account alone. -/
theorem hear_of_concerns (hs : s.record? i = a.record) {j : PaymentId} (hij : i ≠ j)
    (orderId reason : String) {r : Request} (hr : r.Concerns j) (cue : Cue) :
    a.hear i ⟨n, .refund j.text orderId reason, r, (cue.answer s r).1⟩ (cue.answer s r).2 = a := by
  have htext : i.text ≠ j.text := fun ht => hij (PaymentId.text_injective ht)
  cases r with
  | now => exact hear_of_idle hs rfl rfl rfl
  | lookup key => exact False.elim hr
  | cancel key order =>
    exact hear_of_idle hs (if_neg fun ht => htext (beq_iff_eq.1 ht).symm) rfl rfl
  | publish e =>
    exact hear_of_idle hs rfl (if_neg fun he => htext (he.symm.trans hr)) rfl
  | store r =>
    cases r with
    | findById k => exact hear_of_idle hs rfl rfl rfl
    | save p =>
      have hsave : cue.answer s (.store (.save p)) = s.update p cue.now :=
        Store.save_of_id _ _ hr
      rw [hsave]
      refine hear_of_idle ?_ rfl rfl rfl
      rcases s.update_cases p cue.now with ⟨f, hf⟩ | ⟨k, q, hk, -, -, hok⟩
      · rw [hf]
        exact hs
      · cases hk.symm.trans hr
        rw [hok]
        exact (Store.record?_file_of_ne _ hij).trans hs
    | _ => exact False.elim hr

end Account

/-! ## Every move keeps every account sound -/

namespace Traffic

/-- What holds after any moves. -/
structure Sound (t : Traffic) : Prop where
  filed : t.store.Filed
  fits : ∀ (n : Nat) (a : Activity), t.activities[n]? = some a → a.Fits t.store
  /-- Only refunds give orders to cancel. -/
  orders : ∀ x ∈ t.log, ∀ key order, x.request = .cancel key order → ∃ i, x.call.refunds i = true
  accounts : ∀ i, (t.account i).Sound i

theorem sound_start : start.Sound where
  filed := fun _ _ h => (nomatch h)
  fits := fun _ _ h => (nomatch h)
  orders := fun _ h => (nomatch h)
  accounts := fun _ => Account.sound_empty

variable {t : Traffic} {n : Nat}

/-- A call that comes in waits, if it is a refund, and has to do with no account, if it is not. -/
theorem Sound.call (h : t.Sound) (c : Call) : (t.step (.call c)).Sound where
  filed := h.filed
  fits := by
    intro n a ha
    show a.Fits t.store
    rcases List.mem_append.1 (List.mem_of_getElem? ha) with hm | hm
    · obtain ⟨m, hm⟩ := List.mem_iff_getElem?.1 hm
      exact h.fits m a hm
    · rw [List.mem_singleton.1 hm]
      exact Activity.fits_begin t.store c
  orders := h.orders
  accounts := by
    intro i
    rw [account_call]
    have hnew : (t.account i).refunds t.activities.length = none :=
      refunds_of_length_le (Nat.le_refl _)
    cases hc : Activity.refund? i (.begin c) with
    | none =>
      rw [Account.turn_of_eq hnew]
      exact h.accounts i
    | some y =>
      apply (h.accounts i).turn ((h.accounts i).notOwnedBy hnew)
      have hb := Activity.eq_of_refund? hc
      have hcall : c = .refund i.text y.orderId y.reason := congrArg Activity.call hb
      subst hcall
      exact Or.inl (eq_of_heq (Activity.mk.inj hb).2).symm

variable {c : Call} {r : Request} {next : r.Answer → Procedure (Outcome c.Result)}

/-- An answer keeps everything sound, if it is no order to cancel of a call that is no refund, if
what is left of the call fits, and if the accounts stay sound. -/
theorem Sound.answer_of (h : t.Sound) (hn : t.activities[n]? = some ⟨c, .ask r next⟩) (cue : Cue)
    (horders : ∀ key order, r = .cancel key order → ∃ i, c.refunds i = true)
    (hfits : Activity.Fits (cue.answer t.store r).2 ⟨c, next (cue.answer t.store r).1⟩)
    (haccounts : ∀ i, ((t.step (.answer n cue)).account i).Sound i) :
    (t.step (.answer n cue)).Sound where
  filed := by
    rw [step_answer hn]
    exact cue.filed h.filed r
  fits := by
    intro m a ha
    rw [step_answer hn] at ha ⊢
    -- the other calls are where they were, only the store has grown
    by_cases hm : n = m
    · subst hm
      have hlt := (List.getElem?_eq_some_iff.1 hn).1
      cases (List.getElem?_set_self hlt).symm.trans ha
      exact hfits
    · exact (h.fits m a ((List.getElem?_set_ne hm).symm.trans ha)).mono (cue.grows t.store r)
  orders := by
    intro x hx
    rw [step_answer hn] at hx
    rcases List.mem_append.1 hx with hx | hx
    · exact h.orders x hx
    · cases List.mem_singleton.1 hx
      exact horders
  accounts := haccounts

/-- A call that is no refund of a payment reaches the account of it through the exchange only. -/
theorem account_answer_of_other (hn : t.activities[n]? = some ⟨c, .ask r next⟩) (cue : Cue)
    {i : PaymentId} (hc : ∀ rest, Activity.refund? i ⟨c, rest⟩ = none) :
    (t.step (.answer n cue)).account i =
      (t.account i).hear i ⟨n, c, r, (cue.answer t.store r).1⟩ (cue.answer t.store r).2 := by
  rw [account_answer hn, hc]
  exact Account.turn_of_eq ((account_refunds hn i).trans (hc _))

theorem Sound.answer_harmless (h : t.Sound) (hn : t.activities[n]? = some ⟨c, .ask r next⟩)
    (hc : ∀ i rest, Activity.refund? i ⟨c, rest⟩ = none) (hr : r.IsHarmless)
    (hfits : ∀ s a, Activity.Fits s ⟨c, next a⟩) (cue : Cue) : (t.step (.answer n cue)).Sound := by
  apply h.answer_of hn cue ?_ (hfits _ _)
  · intro i
    rw [account_answer_of_other hn cue (hc i)]
    exact (h.accounts i).hear_harmless rfl hr cue
  · rintro key order rfl
    exact False.elim hr

theorem Sound.answer_delete (h : t.Sound) {paymentId deletedBy : String}
    {next : r.Answer → Procedure (Outcome Payment)}
    (hn : t.activities[n]? = some ⟨.delete paymentId deletedBy, .ask r next⟩) (cue : Cue) :
    (t.step (.answer n cue)).Sound := by
  have hidle (i : PaymentId) : (t.step (.answer n cue)).account i =
      (t.account i).hear i ⟨n, .delete paymentId deletedBy, r, (cue.answer t.store r).1⟩
        (cue.answer t.store r).2 := account_answer_of_other hn cue fun _ => rfl
  rcases (h.fits n _ hn).deletes with ⟨j, hr⟩ | ⟨p, hp, hd, hr⟩
  · cases hr
    apply h.answer_of hn cue nofun
    · show Activity.Fits t.store
        ⟨.delete paymentId deletedBy, deleting j deletedBy (t.store.findById j)⟩
      cases hp : t.store.findById j with
      | none => exact Or.inr (Or.inr ⟨_, rfl⟩)
      | some p =>
        obtain ⟨hrec, hd⟩ := Store.findById_eq_some.1 hp
        exact Or.inr (Or.inl ⟨p, Store.knows_of_record (h.filed j p hrec) hrec, hd, rfl⟩)
    · intro i
      rw [hidle i]
      exact (h.accounts i).idle rfl rfl rfl rfl
  · cases hr
    apply h.answer_of hn cue nofun (Or.inr (Or.inr ⟨_, rfl⟩))
    intro i
    rw [hidle i]
    exact (h.accounts i).hear_delete rfl hp hd deletedBy cue.now

theorem Sound.answer_refund (h : t.Sound) {paymentId orderId reason : String}
    {next : r.Answer → Procedure (Outcome Payment)}
    (hn : t.activities[n]? = some ⟨.refund paymentId orderId reason, .ask r next⟩) (cue : Cue) :
    (t.step (.answer n cue)).Sound := by
  obtain ⟨j, rfl⟩ := (h.fits n _ hn).exists_refunded
  -- the account of the refunded payment moves on, all others stay
  have hj : (t.account j).refunds n = some ⟨orderId, reason, .ask r next⟩ :=
    (account_refunds hn j).trans (Activity.refund?_refund j orderId reason _)
  apply h.answer_of hn cue
  · exact fun _ _ _ => ⟨j, beq_self_eq_true j.text⟩
  · intro f hf
    cases (PaymentId.ofText_text j).symm.trans hf
  · intro i
    by_cases hij : i = j
    · subst hij
      rw [account_answer hn, Activity.refund?_refund]
      exact (h.accounts i).answer rfl hj cue
    · rw [account_answer_of_other hn cue (Activity.refund?_of_ne hij orderId reason),
        Account.hear_of_concerns rfl hij orderId reason ((h.accounts j).concerns hj) cue]
      exact h.accounts i

/-- Every answer keeps everything sound. -/
theorem Sound.answer (h : t.Sound) (n : Nat) (cue : Cue) : (t.step (.answer n cue)).Sound := by
  cases hn : t.activities[n]? with
  | none =>
    rw [step, hn]
    exact h
  | some a =>
    obtain ⟨c, rest⟩ := a
    cases rest with
    | done o =>
      rw [step, hn]
      exact h
    | ask r next =>
      have hfits := h.fits n _ hn
      cases c with
      | refund paymentId orderId reason => exact h.answer_refund hn cue
      | delete paymentId deletedBy => exact h.answer_delete hn cue
      | register | find | findByOrder | findByGatewayPayment | search | isVerified | isRefundable =>
        exact h.answer_harmless hn (fun _ _ => rfl) hfits.1 (fun _ => hfits.2) cue

theorem Sound.step (h : t.Sound) (m : Move) : (t.step m).Sound := by
  cases m with
  | call c => exact h.call c
  | answer n cue => exact h.answer n cue

/-- Wherever moves start from a sound state, they lead to a sound state. -/
theorem Sound.steps (h : t.Sound) (moves : List Move) : (moves.foldl Traffic.step t).Sound := by
  induction moves generalizing t with
  | nil => exact h
  | cons m ms ih => exact ih (h.step m)

/-- Whatever happens, every account is sound. -/
theorem sound_after (moves : List Move) : (after moves).Sound :=
  sound_start.steps moves

end Traffic

end Payments
