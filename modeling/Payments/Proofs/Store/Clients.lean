import Payments.Proofs.Payment.Transition
import Payments.Proofs.Store.Queries
import Payments.Proofs.Store.Writes

/-!
# Payments.Proofs.Store.Clients -- a store that many clients write to

Any number of clients use one store, in any order. A client adds payments that it has just created,
and it changes payments of which the store once gave it a copy: it tries steps of the payment's life
on the copy, however old the copy is by then, and hands the outcome back to be saved or deleted.

The clients do nothing to keep out of each other's way. `no_update_is_lost` says that the store does
it for them: a write is accepted only if the copy behind it is the record that it replaces, and then
the record is what the client wanted.

Every attempt to write is kept, with the store before and after it, so what is said about a run can
be said about its attempts.
-/

namespace Payments

open Payment

/-- An attempt to write. -/
structure Write where
  /-- The copy that was written back; none, if the payment was new. -/
  base : Option Payment
  /-- The payment as the client wants it to be stored: the copy, or the new payment, after the steps
  that were tried on it, and marked if it is to be deleted. -/
  wanted : Payment
  now : Instant
  before : Store
  outcome : Outcome Payment
  after : Store

namespace Write

/-- The identity and the version that the attempt wrote, if it wrote any. -/
def stamp (w : Write) : Option (PaymentId × Nat) :=
  match w.outcome with
  | .ok p => p.id.map fun i => (i, p.version)
  | .error _ => none

/-- The attempt put `p` in place of the copy that it came from, with the next version, and touched
no other record. What it put there is what the client wanted, under its identity, counted up and
stamped. -/
structure Commits (w : Write) (i : PaymentId) (p : Payment) : Prop where
  identity : p.id = some i
  content : p = w.wanted.inserted i w.now
  replaces : w.before.record? i = w.base
  version : p.version = w.base.elim 0 Payment.version + 1
  filed : w.after.record? i = some p
  others : ∀ j, j ≠ i → w.after.record? j = w.before.record? j

/-- The attempts follow one another: the first finds the store `s`, each other one what the one
before left, and the last leaves `t`. -/
def Chain (s : Store) : List Write → Store → Prop
  | [], t => s = t
  | w :: ws, t => w.before = s ∧ Chain w.after ws t

theorem Chain.snoc {s t : Store} {ws : List Write} {w : Write} (h : Chain s ws t)
    (hw : w.before = t) : Chain s (ws ++ [w]) w.after := by
  induction ws generalizing s with
  | nil =>
    cases h
    exact ⟨hw, rfl⟩
  | cons v vs ih => exact ⟨h.1, ih h.2⟩

namespace Commits

variable {w : Write} {i : PaymentId} {p : Payment}

/-- The record that was replaced has a smaller version. -/
theorem version_lt (h : w.Commits i p) {q : Payment} (hq : w.before.record? i = some q) :
    q.version < p.version := by
  have hb : w.base = some q := h.replaces.symm.trans hq
  rw [h.version, hb]
  exact Nat.lt_succ_self _

theorem grows (h : w.Commits i p) : w.before.Grows w.after := by
  intro j q hq
  by_cases hj : j = i
  · subst hj
    exact ⟨p, h.filed, Or.inr (h.version_lt hq)⟩
  · exact ⟨q, (h.others j hj).trans hq, .refl q⟩

theorem keepsFiled (h : w.Commits i p) (hf : w.before.Filed) : w.after.Filed := by
  intro j q hq
  by_cases hj : j = i
  · subst hj
    rw [h.filed] at hq
    cases hq
    exact h.identity
  · exact hf j q ((h.others j hj).symm.trans hq)

end Commits

end Write

/-- A store in use. -/
structure Clients where
  store : Store
  /-- The copies that were given out, each with the client who got it. -/
  copies : List (Nat × Payment)
  writes : List Write

namespace Clients

/-- A store without payments that nobody has used. -/
def start : Clients :=
  ⟨∅, [], []⟩

/-- What a client does. -/
inductive Act where
  /-- Creates a payment, tries steps on it and has it saved. -/
  | add (orderId : String) (amount : Decimal) (reference : Gateway.Reference) (payer : Payer)
    (payee : Payee) (createdAt : Instant) (steps : List Transition)
  /-- Tries steps on a copy and has it saved. -/
  | save (copy : Nat) (steps : List Transition)
  /-- Tries steps on a copy and has it deleted. -/
  | delete (copy : Nat) (steps : List Transition) (deletedBy : String)
  | look (l : Store.Look)

/-- A client's turn: the act, the time at which the store serves it and where the store takes a
fresh identity from. -/
structure Turn where
  client : Nat
  act : Act
  now : Instant
  supply : Store.Supply

/-- The copy with a number, if it was given to the client. -/
def copy? (c : Clients) (client copy : Nat) : Option Payment :=
  match c.copies[copy]? with
  | some (owner, p) => if owner = client then some p else none
  | none => none

/-- An attempt to have a payment stored, with what came of it. -/
def attempted (c : Clients) (base : Option Payment) (wanted : Payment) (now : Instant)
    (result : Outcome Payment × Store) : Write where
  base := base
  wanted := wanted
  now := now
  before := c.store
  outcome := result.1
  after := result.2

/-- An attempt has been made. The client gets a copy of what was written. -/
def write (c : Clients) (client : Nat) (w : Write) : Clients where
  store := w.after
  copies := c.copies ++ w.outcome.toOption.toList.map fun p => (client, p)
  writes := c.writes ++ [w]

/-- Has a payment saved that was prepared on a copy, or without one if it is new. -/
def save (c : Clients) (client : Nat) (base : Option Payment) (p : Payment) (fresh : PaymentId)
    (now : Instant) : Clients :=
  c.write client (c.attempted base p now (c.store.save p fresh now))

/-- Has a payment deleted that was prepared on a copy. -/
def delete (c : Clients) (client : Nat) (base : Payment) (p : Payment) (deletedBy : String)
    (now : Instant) : Clients :=
  c.write client
    (c.attempted (some base) (p.markDeleted deletedBy now) now (c.store.delete p deletedBy now))

/-- A turn is taken. Who has no copy cannot write it back, and a payment that cannot be created is
not saved. -/
def step (c : Clients) (t : Turn) : Clients :=
  match t.act with
  | .add orderId amount reference payer payee createdAt steps =>
    match Payment.create orderId amount reference payer payee createdAt with
    | .ok p => c.save t.client none (p.attemptAll steps) (t.supply c.store) t.now
    | .error _ => c
  | .save copy steps =>
    match c.copy? t.client copy with
    | some p => c.save t.client (some p) (p.attemptAll steps) (t.supply c.store) t.now
    | none => c
  | .delete copy steps deletedBy =>
    match c.copy? t.client copy with
    | some p => c.delete t.client p (p.attemptAll steps) deletedBy t.now
    | none => c
  | .look l => { c with copies := c.copies ++ (l.shown c.store).map fun p => (t.client, p) }

/-- The store after turns were taken one after another, from the beginning. -/
def after (turns : List Turn) : Clients :=
  turns.foldl step start

/-! ## Every write is lawful -/

/-- An attempt changes nothing or commits, and what it commits keeps the mark of a deletion. -/
def Lawful (w : Write) : Prop :=
  ((∃ f, w.outcome = .error f) ∧ w.after = w.before) ∨
    ∃ i p, w.outcome = .ok p ∧ w.Commits i p ∧
      ∀ q, w.base = some q → q.isDeleted = true → p.isDeleted = true

/-- A write that was prepared on a copy is lawful, if it keeps the mark of a deletion. -/
theorem lawful_update {c : Clients} {copy p : Payment} (now : Instant) (hk : c.store.Knows copy)
    (hid : p.id = copy.id) (hv : p.version = copy.version)
    (hd : copy.isDeleted = true → p.isDeleted = true) :
    Lawful (c.attempted (some copy) p now (c.store.update p now)) := by
  rcases Store.update_of_copy now hk hid hv with ⟨f, h⟩ | ⟨i, hi, hr, h⟩
  · exact Or.inl ⟨⟨f, congrArg Prod.fst h⟩, congrArg Prod.snd h⟩
  · refine Or.inr ⟨i, p.written now, congrArg Prod.fst h, ?_, ?_⟩
    · rw [h]
      exact
        { identity := hid.trans hi
          content := (inserted_of_id (hid.trans hi) now).symm
          replaces := hr
          version := congrArg (· + 1) hv
          filed := c.store.record?_file_self i _
          others := fun j hj => Store.record?_file_of_ne _ hj }
    · intro q hq
      cases hq
      exact hd

theorem lawful_save {c : Clients} {copy : Payment} (steps : List Transition) (fresh : PaymentId)
    (now : Instant) (hk : c.store.Knows copy) :
    Lawful (c.attempted (some copy) (copy.attemptAll steps) now
      (c.store.save (copy.attemptAll steps) fresh now)) := by
  have origin := copy.sameOrigin_attemptAll steps
  obtain ⟨i, q, hi, -⟩ := id hk
  rw [Store.save_of_id fresh now (origin.id.trans hi)]
  apply lawful_update now hk origin.id origin.version
  intro hd
  rw [Payment.isDeleted, origin.deletion]
  exact hd

theorem lawful_delete {c : Clients} {copy : Payment} (steps : List Transition) (deletedBy : String)
    (now : Instant) (hk : c.store.Knows copy) :
    Lawful (c.attempted (some copy) ((copy.attemptAll steps).markDeleted deletedBy now) now
      (c.store.delete (copy.attemptAll steps) deletedBy now)) := by
  have origin := copy.sameOrigin_attemptAll steps
  exact lawful_update now hk origin.id origin.version fun _ => rfl

theorem lawful_add {c : Clients} {p : Payment} {fresh : PaymentId} (now : Instant)
    (hi : p.id = none) (hv : p.version = 0) (hf : c.store.record? fresh = none) :
    Lawful (c.attempted none p now (c.store.save p fresh now)) := by
  rw [Store.save_of_no_id fresh now hi]
  rcases Store.insert_cases c.store fresh now hv with ⟨f, h⟩ | ⟨-, -, h⟩
  · exact Or.inl ⟨⟨f, congrArg Prod.fst h⟩, congrArg Prod.snd h⟩
  · refine Or.inr ⟨fresh, p.inserted fresh now, congrArg Prod.fst h, ?_, fun q hq => (nomatch hq)⟩
    rw [h]
    exact
      { identity := rfl
        content := rfl
        replaces := hf
        version := congrArg (· + 1) hv
        filed := Store.record?_file_self _ fresh _
        others := fun j hj => Store.record?_file_of_ne _ hj }

/-! ## What every turn keeps -/

/-- The record of the payment that was written is that payment or a later one, and the mark of a
deletion is still on it. -/
def Keeps (s : Store) (p : Payment) : Prop :=
  ∃ i q, p.id = some i ∧ s.record? i = some q ∧ p.Precedes q ∧
    (p.isDeleted = true → q.isDeleted = true)

/-- A committed write lets the store keep what was written before, provided that the write keeps
the mark of a deletion. -/
theorem Keeps.commit {w : Write} {i : PaymentId} {p q : Payment} (hq : Keeps w.before q)
    (hw : w.Commits i p) (hd : ∀ r, w.base = some r → r.isDeleted = true → p.isDeleted = true) :
    Keeps w.after q := by
  obtain ⟨j, r, hj, hr, hqr, hm⟩ := hq
  by_cases hji : j = i
  · subst hji
    refine ⟨j, p, hj, hw.filed, hqr.trans (Or.inr (hw.version_lt hr)), ?_⟩
    intro hdel
    exact hd r (hw.replaces.symm.trans hr) (hm hdel)
  · exact ⟨j, r, hj, (hw.others j hji).trans hr, hqr, hm⟩

/-- What holds of a store in use. -/
structure Sound (c : Clients) : Prop where
  filed : c.store.Filed
  knows : ∀ k p, (k, p) ∈ c.copies → c.store.Knows p
  keeps : ∀ w ∈ c.writes, ∀ p, w.outcome = .ok p → Keeps c.store p
  lawful : ∀ w ∈ c.writes, Lawful w
  chain : Write.Chain ∅ c.writes c.store
  once : (c.writes.filterMap Write.stamp).Nodup
  marked : c.writes.Pairwise fun v w => ∀ p q, v.outcome = .ok p → w.outcome = .ok q →
    p.id = q.id → p.isDeleted = true → q.isDeleted = true

namespace Sound

variable {c : Clients} {base : Option Payment} {wanted : Payment} {now : Instant}

theorem ofStart : start.Sound where
  filed := fun _ _ h => (nomatch h)
  knows := fun _ _ h => (nomatch h)
  keeps := fun _ h => (nomatch h)
  lawful := fun _ h => (nomatch h)
  chain := rfl
  once := .nil
  marked := .nil

theorem refused (hc : c.Sound) (client : Nat) (f : Failure) :
    (c.write client (c.attempted base wanted now (.error f, c.store))).Sound where
  filed := hc.filed
  knows := by
    intro k p hp
    rw [write, List.mem_append] at hp
    rcases hp with hp | hp
    · exact hc.knows k p hp
    · cases hp
  keeps := by
    intro w hw p hp
    rcases List.mem_append.1 hw with hw | hw
    · exact hc.keeps w hw p hp
    · cases List.mem_singleton.1 hw
      cases hp
  lawful := by
    intro w hw
    rcases List.mem_append.1 hw with hw | hw
    · exact hc.lawful w hw
    · cases List.mem_singleton.1 hw
      exact Or.inl ⟨⟨f, rfl⟩, rfl⟩
  chain := hc.chain.snoc rfl
  once := by
    show ((c.writes ++ _).filterMap Write.stamp).Nodup
    rw [List.filterMap_append]
    exact (List.append_nil _).symm ▸ hc.once
  marked := by
    refine List.pairwise_append.2 ⟨hc.marked, List.pairwise_singleton _ _, ?_⟩
    intro v hv w hw p q hp hq
    cases List.mem_singleton.1 hw
    cases hq

/-- What was written before has a smaller version than what an attempt commits now, and the mark of
a deletion passes from one to the other. -/
theorem later (hc : c.Sound) {v w : Write} {i : PaymentId} {p q : Payment} (hv : v ∈ c.writes)
    (hp : v.outcome = .ok p) (hpq : p.id = q.id) (hb : w.before = c.store) (hw : w.Commits i q)
    (hd : ∀ r, w.base = some r → r.isDeleted = true → q.isDeleted = true) :
    p.version < q.version ∧ (p.isDeleted = true → q.isDeleted = true) := by
  obtain ⟨j, r, hj, hr, hpr, hm⟩ := hc.keeps v hv p hp
  have hji : j = i := Option.some.inj (hj.symm.trans (hpq.trans hw.identity))
  subst hji
  rw [← hb] at hr
  refine ⟨Nat.lt_of_le_of_lt hpr.version_le (hw.version_lt hr), ?_⟩
  intro hdel
  exact hd r (hw.replaces.symm.trans hr) (hm hdel)

theorem committed (hc : c.Sound) (client : Nat) {p : Payment} {s : Store} {i : PaymentId}
    (hw : (c.attempted base wanted now (.ok p, s)).Commits i p)
    (hd : ∀ q, base = some q → q.isDeleted = true → p.isDeleted = true) :
    (c.write client (c.attempted base wanted now (.ok p, s))).Sound where
  filed := hw.keepsFiled hc.filed
  knows := by
    intro k q hq
    rcases List.mem_append.1 hq with hq | hq
    · exact (hc.knows k q hq).mono hw.grows
    · cases List.mem_singleton.1 hq
      exact Store.knows_of_record hw.identity hw.filed
  keeps := by
    intro w hmem q hq
    rcases List.mem_append.1 hmem with hmem | hmem
    · exact (hc.keeps w hmem q hq).commit hw hd
    · cases List.mem_singleton.1 hmem
      cases hq
      exact ⟨i, p, hw.identity, hw.filed, .refl p, id⟩
  lawful := by
    intro w hmem
    rcases List.mem_append.1 hmem with hmem | hmem
    · exact hc.lawful w hmem
    · cases List.mem_singleton.1 hmem
      exact Or.inr ⟨i, p, rfl, hw, hd⟩
  chain := hc.chain.snoc rfl
  once := by
    have hs : (c.attempted base wanted now (.ok p, s)).stamp = some (i, p.version) := by
      show p.id.map _ = _
      rw [hw.identity]
      rfl
    show ((c.writes ++ [_]).filterMap Write.stamp).Nodup
    rw [List.filterMap_append, List.filterMap_cons_some hs, List.nodup_append]
    refine ⟨hc.once, List.pairwise_singleton _ _, ?_⟩
    rintro stamp hold _ hnew rfl
    cases List.mem_singleton.1 hnew
    obtain ⟨v, hv, hvs⟩ := List.mem_filterMap.1 hold
    -- an earlier write of this version would have to be older than itself
    cases ho : v.outcome with
    | error f =>
      rw [Write.stamp, ho] at hvs
      cases hvs
    | ok q =>
      rw [Write.stamp, ho] at hvs
      obtain ⟨j, hj, hjq⟩ := Option.map_eq_some_iff.1 hvs
      obtain ⟨rfl, hqv⟩ := Prod.mk.inj hjq
      have hlt := (hc.later hv ho (hj.trans hw.identity.symm) rfl hw hd).1
      rw [hqv] at hlt
      exact Nat.lt_irrefl _ hlt
  marked := by
    refine List.pairwise_append.2 ⟨hc.marked, List.pairwise_singleton _ _, ?_⟩
    intro v hv w hmem q r hq hr hqr
    cases List.mem_singleton.1 hmem
    cases hr
    exact (hc.later hv hq hqr rfl hw hd).2

/-- A lawful write keeps the history sound. -/
theorem write (hc : c.Sound) (client : Nat) {result : Outcome Payment × Store}
    (hw : Lawful (c.attempted base wanted now result)) :
    (c.write client (c.attempted base wanted now result)).Sound := by
  obtain ⟨outcome, s⟩ := result
  rcases hw with ⟨⟨f, hf⟩, hs⟩ | ⟨i, p, hp, hc', hd⟩
  · cases hf
    cases hs
    exact hc.refused client f
  · cases hp
    exact hc.committed client hc' hd

theorem look (hc : c.Sound) (client : Nat) (l : Store.Look) :
    Sound { c with copies := c.copies ++ (l.shown c.store).map fun p => (client, p) } where
  filed := hc.filed
  knows := by
    intro k p hp
    rcases List.mem_append.1 hp with hp | hp
    · exact hc.knows k p hp
    · obtain ⟨q, hq, hqp⟩ := List.mem_map.1 hp
      have hqp : q = p := congrArg Prod.snd hqp
      subst hqp
      obtain ⟨i, hi⟩ := l.hasRecord hq
      exact Store.knows_of_record (hc.filed i q hi) hi
  keeps := hc.keeps
  lawful := hc.lawful
  chain := hc.chain
  once := hc.once
  marked := hc.marked

theorem knows_copy (hc : c.Sound) {client copy : Nat} {p : Payment}
    (h : c.copy? client copy = some p) : c.store.Knows p := by
  unfold copy? at h
  split at h
  · next owner q hq =>
    split at h
    · cases h
      exact hc.knows owner p (List.mem_of_getElem? hq)
    · cases h
  · cases h

/-- Every turn keeps the history sound. -/
theorem step (hc : c.Sound) (t : Turn) : (c.step t).Sound := by
  obtain ⟨client, act, now, supply⟩ := t
  cases act with
  | add orderId amount reference payer payee createdAt steps =>
    cases hp : Payment.create orderId amount reference payer payee createdAt with
    | error f =>
      simp only [Clients.step, hp]
      exact hc
    | ok p =>
      simp only [Clients.step, hp]
      have origin := p.sameOrigin_attemptAll steps
      obtain ⟨ledger, -, rfl⟩ := create_eq_ok hp
      exact hc.write client (lawful_add now origin.id origin.version (supply c.store).2)
  | save copy steps =>
    cases hp : c.copy? client copy with
    | none =>
      simp only [Clients.step, hp]
      exact hc
    | some p =>
      simp only [Clients.step, hp]
      exact hc.write client (lawful_save steps _ now (hc.knows_copy hp))
  | delete copy steps deletedBy =>
    cases hp : c.copy? client copy with
    | none =>
      simp only [Clients.step, hp]
      exact hc
    | some p =>
      simp only [Clients.step, hp]
      exact hc.write client (lawful_delete steps deletedBy now (hc.knows_copy hp))
  | look l => exact hc.look client l

/-- The history is sound after any turns. -/
theorem after (turns : List Turn) : (after turns).Sound := by
  -- the turns are taken from the front, so the induction is over all sound beginnings
  suffices h : ∀ c : Clients, c.Sound → (turns.foldl Clients.step c).Sound from h start ofStart
  induction turns with
  | nil => exact fun _ hc => hc
  | cons t ts ih => exact fun c hc => ih (c.step t) (hc.step t)

end Sound

/-! ## No update is lost -/

/-- However many clients write to a store, in whatever order, and however old the copies are that
they write back:

* the attempts to write follow one another, from the empty store to the present one;
* one that is accepted replaces the very record that its copy was of by what its client wanted, with
  the next version;
* no version of a payment is written twice;
* one that is refused leaves the store as it was, with all records and both indexes;
* a payment that was written as deleted is written as deleted ever after. -/
theorem no_update_is_lost (turns : List Turn) :
    let c := after turns
    Write.Chain ∅ c.writes c.store ∧
      (∀ w ∈ c.writes, ∀ p, w.outcome = .ok p → ∃ i, w.Commits i p) ∧
      (c.writes.filterMap Write.stamp).Nodup ∧
      (∀ w ∈ c.writes, ∀ f, w.outcome = .error f → w.after = w.before) ∧
      c.writes.Pairwise fun v w => ∀ p q, v.outcome = .ok p → w.outcome = .ok q →
        p.id = q.id → p.isDeleted = true → q.isDeleted = true := by
  have h := Sound.after turns
  refine ⟨h.chain, ?_, h.once, ?_, h.marked⟩
  · intro w hw p hp
    rcases h.lawful w hw with ⟨⟨f, hf⟩, -⟩ | ⟨i, q, hq, hc, -⟩
    · rw [hp] at hf
      cases hf
    · rw [hp] at hq
      cases hq
      exact ⟨i, hc⟩
  · intro w hw f hf
    rcases h.lawful w hw with ⟨-, hs⟩ | ⟨i, q, hq, -⟩
    · exact hs
    · rw [hf] at hq
      cases hq

end Clients

end Payments
