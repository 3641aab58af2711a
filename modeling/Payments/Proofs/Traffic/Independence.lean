import Mathlib.Data.List.Count
import Payments.Proofs.Service.Confinement
import Payments.Proofs.Store.Frames
import Payments.Proofs.Traffic.Alone

/-!
# Payments.Proofs.Traffic.Independence -- calls that have to do with different payments

A refund and a deletion, two refunds or two deletions, of different payments: however their requests
alternate, each call comes to what it would come to alone, and the store is the one that either
order of the calls leaves (`Traffic.calls_do_not_interfere`).

The argument has two halves. A request of a call that is confined to one payment is answered by the
record of that payment, and changes nothing else (`Cue.answer_congr`, `Cue.answer_sameBut`); hence
so is a whole run (`Procedure.Confined.alone_congr`, `Procedure.Confined.alone_sameBut`). While two
calls alternate, what is kept by every turn is what each of them would come to if it went on alone:
by its own turns trivially, and by those of the other call because they leave its record alone.
-/

namespace Payments

open Store (SameBut)

/-! ## One request -/

namespace Cue

variable {s s' : Store} {text : String} {r : Request}

/-- A request that is about one payment changes the record of no other. -/
theorem answer_sameBut (cue : Cue) (s : Store) (hr : r.StaysWith text) :
    SameBut text s (cue.answer s r).2 := by
  cases r with
  | store r =>
    cases r with
    | save p =>
      obtain ⟨i, hi, rfl⟩ := hr
      show SameBut i.text s (s.save p _ cue.now).2
      rw [Store.save_of_id _ _ hi]
      exact Store.sameBut_update hi cue.now
    | delete p deletedBy =>
      obtain ⟨i, hi, rfl⟩ := hr
      exact Store.sameBut_update (p := p.markDeleted deletedBy cue.now) hi cue.now
    | _ => exact .refl text s
  | _ => exact .refl text s

/-- The answer to it, and the record that it leaves, depend on the record of the payment only. -/
theorem answer_congr (cue : Cue) (hr : r.StaysWith text)
    (h : s.recordUnder text = s'.recordUnder text) :
    (cue.answer s r).1 = (cue.answer s' r).1 ∧
      (cue.answer s r).2.recordUnder text = (cue.answer s' r).2.recordUnder text := by
  cases r with
  | store r =>
    cases r with
    | save p =>
      obtain ⟨i, hi, rfl⟩ := hr
      simp only [Store.recordUnder_text] at h ⊢
      show (s.save p _ cue.now).1 = (s'.save p _ cue.now).1 ∧
        (s.save p _ cue.now).2.record? i = (s'.save p _ cue.now).2.record? i
      rw [Store.save_of_id _ _ hi, Store.save_of_id _ _ hi]
      exact Store.update_congr hi h cue.now
    | delete p deletedBy =>
      obtain ⟨i, hi, rfl⟩ := hr
      simp only [Store.recordUnder_text] at h ⊢
      exact Store.update_congr (p := p.markDeleted deletedBy cue.now) hi h cue.now
    | findById i =>
      obtain rfl : i.text = text := hr
      refine ⟨?_, h⟩
      simp only [Store.recordUnder_text] at h
      show s.findById i = s'.findById i
      rw [Store.findById, Store.findById, h]
    | _ => exact False.elim hr
  | _ => exact ⟨rfl, h⟩

/-- The answer is about that payment too. -/
theorem returns_answer (cue : Cue) (hs : s.Filed) (hr : r.StaysWith text) :
    r.Returns text (cue.answer s r).1 := by
  cases r with
  | store r =>
    cases r with
    | save p =>
      obtain ⟨i, hi, rfl⟩ := hr
      show ∀ q, (s.save p _ cue.now).1 = .ok q → q.IsUnder i.text
      rw [Store.save_of_id _ _ hi]
      exact fun q hq => ⟨i, (Store.id_of_update hq).trans hi, rfl⟩
    | delete p deletedBy =>
      obtain ⟨i, hi, rfl⟩ := hr
      exact fun q hq => ⟨i, (Store.id_of_update hq).trans hi, rfl⟩
    | findById i =>
      obtain rfl : i.text = text := hr
      intro p hp
      exact ⟨i, hs i p (Store.findById_eq_some.1 hp).1, rfl⟩
    | _ => exact False.elim hr
  | _ => exact trivial

end Cue

/-- Of a request that is about one payment the listeners hear for that payment only. -/
theorem Reply.events_by {r : Request} {text : String} (hr : r.StaysWith text) (a : r.Answer)
    (n : Nat) (c : Call) (i : PaymentId) :
    (Reply.by_ ⟨r, a⟩ n c).events i =
      if i.text = text then (Reply.event? ⟨r, a⟩).toList else [] := by
  cases r with
  | publish e =>
    obtain rfl : e.paymentId = text := hr
    by_cases hi : i.text = e.paymentId
    · rw [if_pos hi]
      exact if_pos hi.symm
    · rw [if_neg hi]
      exact if_neg (Ne.symm hi)
  | _ => split <;> rfl

/-! ## A whole run -/

namespace Procedure.Confined

variable {α : Type} {text : String} {P : α → Prop} {p : Procedure α} {s s' : Store}

theorem alone_sameBut (hp : p.Confined text P) (hs : s.Filed) (cues : Nat → Cue) :
    SameBut text s (p.alone cues s).store := by
  induction p generalizing s cues with
  | done a => exact .refl text s
  | ask r next ih =>
    have hanswer := (cues 0).answer_sameBut s hp.1
    exact hanswer.trans (ih _ (hp.2 _ ((cues 0).returns_answer hs hp.1)) ((cues 0).filed hs r) _)

/-- What the run comes to, and the record that it leaves, depend on the record of the payment only.
-/
theorem alone_congr (hp : p.Confined text P) (hs : s.Filed)
    (h : s.recordUnder text = s'.recordUnder text) (cues : Nat → Cue) :
    (p.alone cues s).result = (p.alone cues s').result ∧
      (p.alone cues s).dialogue = (p.alone cues s').dialogue ∧
      (p.alone cues s).store.recordUnder text = (p.alone cues s').store.recordUnder text := by
  induction p generalizing s s' cues with
  | done a => exact ⟨rfl, rfl, h⟩
  | ask r next ih =>
    obtain ⟨hanswer, hrecord⟩ := (cues 0).answer_congr hp.1 h
    have hnext := hp.2 _ ((cues 0).returns_answer hs hp.1)
    obtain ⟨hresult, hdialogue, hleft⟩ :=
      ih _ hnext ((cues 0).filed hs r) hrecord fun k => cues (k + 1)
    simp only [alone_ask, Solo.following, ← hanswer]
    exact ⟨hresult, by rw [hdialogue], hleft⟩

/-- The listeners hear of that payment, and of no other. -/
theorem events_alone (hp : p.Confined text P) (hs : s.Filed) (cues : Nat → Cue) (n : Nat)
    (c : Call) (i : PaymentId) :
    ((p.alone cues s).dialogue.map fun d => d.by_ n c).flatMap (Exchange.events i) =
      if i.text = text then (p.alone cues s).events else [] := by
  induction p generalizing s cues with
  | done a => split <;> rfl
  | ask r next ih =>
    have hrest := ih _ (hp.2 _ ((cues 0).returns_answer hs hp.1)) ((cues 0).filed hs r)
      fun k => cues (k + 1)
    rw [alone_ask, Solo.events_following]
    show (List.flatMap _ (_ :: List.map _ _)) = _
    rw [List.flatMap_cons, hrest, Reply.events_by hp.1]
    split <;> rfl

end Procedure.Confined

/-! ## Refunds and deletions -/

namespace Call

/-- The call is to refund or to delete the payment under a text. -/
def AimsAt (text : String) : Call → Prop
  | refund paymentId _ _ | delete paymentId _ => paymentId = text
  | _ => False

theorem AimsAt.confined {c : Call} {text : String} (h : c.AimsAt text) :
    ∃ P, c.attempt.run.Confined text P := by
  cases c with
  | refund paymentId orderId reason =>
    cases h
    exact ⟨_, Service.stays_refund text orderId reason⟩
  | delete paymentId deletedBy =>
    cases h
    exact ⟨_, Service.stays_delete text deletedBy⟩
  | _ => exact False.elim h

end Call

/-! ## Two calls -/

namespace Traffic

/-- Two calls move on in turns, each with what its surroundings have ready for it: `true` is a turn
of the call `m`, and `false` one of the call `n`. A call that is over lets its turns pass. -/
def alternate (m n : Nat) : List Bool → (Nat → Cue) → (Nat → Cue) → Traffic → Traffic
  | [], _, _, t => t
  | true :: turns, xs, ys, t =>
    alternate m n turns (fun k => xs (k + 1)) ys (t.step (.answer m (xs 0)))
  | false :: turns, xs, ys, t =>
    alternate m n turns xs (fun k => ys (k + 1)) (t.step (.answer n (ys 0)))

/-- To change the places of the calls is to change the turns. -/
theorem alternate_swap (m n : Nat) (turns : List Bool) (xs ys : Nat → Cue) (t : Traffic) :
    alternate m n turns xs ys t = alternate n m (turns.map not) ys xs t := by
  induction turns generalizing xs ys t with
  | nil => rfl
  | cons turn turns ih => cases turn <;> exact ih _ _ _

/-- From `t` to `u`, the calls `m` and `n` have come to what the runs `x` and `y` come to, and
nothing else has happened. The calls have to do with the payments under `text` and under `other`. -/
structure EndsApart (t u : Traffic) (text other : String) (m n : Nat) {c d : Call}
    (x : Solo (Outcome c.Result)) (y : Solo (Outcome d.Result)) : Prop where
  first : u.activities[m]? = some ⟨c, .done x.result⟩
  second : u.activities[n]? = some ⟨d, .done y.result⟩
  dialogueFirst : u.dialogue m = t.dialogue m ++ x.dialogue
  dialogueSecond : u.dialogue n = t.dialogue n ++ y.dialogue
  store : Store.Joins text other t.store x.store y.store u.store
  eventsFirst : ∀ i : PaymentId, i.text = text → u.events i = t.events i ++ x.events
  eventsSecond : ∀ i : PaymentId, i.text = other → u.events i = t.events i ++ y.events
  eventsOthers : ∀ i : PaymentId, i.text ≠ text → i.text ≠ other → u.events i = t.events i

variable {t u v : Traffic} {text other : String} {m n : Nat} {c d : Call}
  {x : Solo (Outcome c.Result)} {y : Solo (Outcome d.Result)}

theorem EndsApart.symm (h : EndsApart t u text other m n x y) :
    EndsApart t u other text n m y x where
  first := h.second
  second := h.first
  dialogueFirst := h.dialogueSecond
  dialogueSecond := h.dialogueFirst
  store := h.store.symm
  eventsFirst := h.eventsSecond
  eventsSecond := h.eventsFirst
  eventsOthers := fun i hi hi' => h.eventsOthers i hi' hi

/-- A call that comes in takes no part in what has happened before. -/
theorem EndsApart.of_call {e : Call} (h : EndsApart (t.step (.call e)) u text other m n x y) :
    EndsApart t u text other m n x y where
  first := h.first
  second := h.second
  dialogueFirst := h.dialogueFirst
  dialogueSecond := h.dialogueSecond
  store := h.store
  eventsFirst := h.eventsFirst
  eventsSecond := h.eventsSecond
  eventsOthers := h.eventsOthers

theorem EndsApart.events_eq (h : EndsApart t u text other m n x y) {k l : Nat}
    (h' : EndsApart t v text other k l x y) (i : PaymentId) : u.events i = v.events i := by
  by_cases hi : i.text = text
  · rw [h.eventsFirst i hi, h'.eventsFirst i hi]
  · by_cases hi' : i.text = other
    · rw [h.eventsSecond i hi', h'.eventsSecond i hi']
    · rw [h.eventsOthers i hi hi', h'.eventsOthers i hi hi']

theorem EndsApart.store_eq (h : EndsApart t u text other m n x y) {k l : Nat}
    (h' : EndsApart t v text other k l x y) : u.store = v.store :=
  h'.store.unique h.store

theorem events_answer {r : Request} {next : r.Answer → Procedure (Outcome c.Result)}
    (h : t.activities[n]? = some ⟨c, .ask r next⟩) (cue : Cue) (i : PaymentId) :
    (t.step (.answer n cue)).events i =
      t.events i ++ (Reply.by_ ⟨r, (cue.answer t.store r).1⟩ n c).events i := by
  rw [step_answer h cue, events, List.flatMap_append, List.flatMap_singleton]
  rfl

/-- A turn of the first call brings it one request further, and leaves to the second what that would
come to alone. -/
theorem EndsApart.turn {Q : Outcome d.Result → Prop} {q : Procedure (Outcome d.Result)}
    {r : Request} {next : r.Answer → Procedure (Outcome c.Result)} {xs ys : Nat → Cue}
    (hne : text ≠ other) (hmn : m ≠ n) (ht : t.store.Filed)
    (hm : t.activities[m]? = some ⟨c, .ask r next⟩) (hr : r.StaysWith text)
    (hq : q.Confined other Q)
    (h : EndsApart (t.step (.answer m (xs 0))) u text other m n
      ((next ((xs 0).answer t.store r).1).alone (fun k => xs (k + 1))
        (t.step (.answer m (xs 0))).store)
      (q.alone ys (t.step (.answer m (xs 0))).store)) :
    EndsApart t u text other m n ((Procedure.ask r next).alone xs t.store)
      (q.alone ys t.store) := by
  have hsame := (xs 0).answer_sameBut t.store hr
  obtain ⟨hresult, hdialogue, hrecord⟩ :=
    hq.alone_congr ((xs 0).filed ht r) (hsame.recordUnder hne.symm) ys
  have hjoins := h.store
  rw [store_answer hm] at h hjoins
  exact
    { first := h.first
      second := hresult ▸ h.second
      dialogueFirst := by
        rw [h.dialogueFirst, dialogue_answer hm, if_pos rfl, List.append_assoc]
        rfl
      dialogueSecond := by
        rw [h.dialogueSecond, dialogue_answer hm, if_neg hmn, List.append_nil, hdialogue]
      store :=
        { keys := hjoins.keys.trans hsame.keys
          byGatewayPayment := hjoins.byGatewayPayment.trans hsame.byGatewayPayment
          byOrder := hjoins.byOrder.trans hsame.byOrder
          first := hjoins.first
          second := hjoins.second.trans hrecord
          others := fun i hi hi' => (hjoins.others i hi hi').trans (hsame.others i hi) }
      eventsFirst := by
        intro i hi
        rw [h.eventsFirst i hi, events_answer hm, Reply.events_by hr, if_pos hi,
          List.append_assoc, Procedure.alone_ask, Solo.events_following]
      eventsSecond := by
        intro i hi
        have hother : i.text ≠ text := fun hi' => hne (hi'.symm.trans hi)
        rw [h.eventsSecond i hi, events_answer hm, Reply.events_by hr, if_neg hother,
          List.append_nil, Solo.events, hdialogue]
        rfl
      eventsOthers := by
        intro i hi hi'
        rw [h.eventsOthers i hi hi', events_answer hm, Reply.events_by hr, if_neg hi,
          List.append_nil] }

/-! ## Every order of their requests -/

section Alternating

variable {p : Procedure (Outcome c.Result)} {q : Procedure (Outcome d.Result)}
  {P : Outcome c.Result → Prop} {Q : Outcome d.Result → Prop}

theorem filed_answer (h : t.activities[n]? = some ⟨c, p⟩) (ht : t.store.Filed) (cue : Cue) :
    (t.step (.answer n cue)).store.Filed := by
  cases p with
  | done o => rwa [step_answer_of_done h]
  | ask r next =>
    rw [step_answer h]
    exact cue.filed ht r

theorem activities_turn {r : Request} {next : r.Answer → Procedure (Outcome c.Result)}
    (hm : t.activities[m]? = some ⟨c, .ask r next⟩) (hn : t.activities[n]? = some ⟨d, q⟩)
    (hmn : m ≠ n) (cue : Cue) :
    (t.step (.answer m cue)).activities[m]? = some ⟨c, next (cue.answer t.store r).1⟩ ∧
      (t.step (.answer m cue)).activities[n]? = some ⟨d, q⟩ := by
  rw [activities_answer hm, activities_answer hm, if_pos rfl, if_neg hmn]
  exact ⟨rfl, hn⟩

/-- Two calls that are over have come to what their results say. -/
theorem endsApart_of_done {o : Outcome c.Result} {o' : Outcome d.Result}
    (hm : t.activities[m]? = some ⟨c, .done o⟩) (hn : t.activities[n]? = some ⟨d, .done o'⟩) :
    EndsApart t t text other m n (⟨o, t.store, []⟩ : Solo (Outcome c.Result))
      (⟨o', t.store, []⟩ : Solo (Outcome d.Result)) where
  first := hm
  second := hn
  dialogueFirst := (List.append_nil _).symm
  dialogueSecond := (List.append_nil _).symm
  store := ⟨⟨rfl, rfl, rfl⟩, rfl, rfl, fun _ _ _ => rfl⟩
  eventsFirst := fun _ _ => (List.append_nil _).symm
  eventsSecond := fun _ _ => (List.append_nil _).symm
  eventsOthers := fun _ _ _ => rfl

/-- Whatever the turns are in which two calls of different payments move on: once both are over,
they have come to what they come to alone. -/
theorem endsApart_alternate (hne : text ≠ other) (hmn : m ≠ n) (turns : List Bool)
    {xs ys : Nat → Cue} (ht : t.store.Filed) (hm : t.activities[m]? = some ⟨c, p⟩)
    (hn : t.activities[n]? = some ⟨d, q⟩) (hp : p.Confined text P) (hq : q.Confined other Q)
    (hover : ∃ o, (alternate m n turns xs ys t).activities[m]? = some ⟨c, .done o⟩)
    (hover' : ∃ o, (alternate m n turns xs ys t).activities[n]? = some ⟨d, .done o⟩) :
    EndsApart t (alternate m n turns xs ys t) text other m n (p.alone xs t.store)
      (q.alone ys t.store) := by
  induction turns generalizing t p q xs ys with
  | nil =>
    obtain ⟨o, ho⟩ := hover
    obtain ⟨o', ho'⟩ := hover'
    cases hm.symm.trans ho
    cases hn.symm.trans ho'
    exact endsApart_of_done hm hn
  | cons turn turns ih =>
    cases turn with
    | true =>
      cases p with
      | done o =>
        simp only [alternate, step_answer_of_done hm] at hover hover' ⊢
        exact ih ht hm hn hp hq hover hover'
      | ask r next =>
        obtain ⟨hm', hn'⟩ := activities_turn hm hn hmn (xs 0)
        have hrest := hp.2 _ ((xs 0).returns_answer ht hp.1)
        exact EndsApart.turn hne hmn ht hm hp.1 hq
          (ih (filed_answer hm ht (xs 0)) hm' hn' hrest hq hover hover')
    | false =>
      cases q with
      | done o =>
        simp only [alternate, step_answer_of_done hn] at hover hover' ⊢
        exact ih ht hm hn hp hq hover hover'
      | ask r next =>
        obtain ⟨hn', hm'⟩ := activities_turn hn hm hmn.symm (ys 0)
        have hrest := hq.2 _ ((ys 0).returns_answer ht hq.1)
        exact (EndsApart.turn hne.symm hmn.symm ht hn hq.1 hp
          (ih (filed_answer hn ht (ys 0)) hm' hn' hp hrest hover hover').symm).symm

/-- A call that has had as many turns as it asks alone is over. -/
theorem over_alternate (hne : text ≠ other) (hmn : m ≠ n) (turns : List Bool)
    {xs ys : Nat → Cue} (ht : t.store.Filed) (hm : t.activities[m]? = some ⟨c, p⟩)
    (hn : t.activities[n]? = some ⟨d, q⟩) (hp : p.Confined text P) (hq : q.Confined other Q)
    (hturns : (p.alone xs t.store).dialogue.length ≤ turns.count true) :
    ∃ o, (alternate m n turns xs ys t).activities[m]? = some ⟨c, .done o⟩ := by
  induction turns generalizing t p q xs ys with
  | nil =>
    cases p with
    | done o => exact ⟨o, hm⟩
    | ask r next => cases hturns
  | cons turn turns ih =>
    cases turn with
    | true =>
      cases p with
      | done o =>
        simp only [alternate, step_answer_of_done hm]
        exact ih ht hm hn hp hq (Nat.zero_le _)
      | ask r next =>
        obtain ⟨hm', hn'⟩ := activities_turn hm hn hmn (xs 0)
        have hrest := hp.2 _ ((xs 0).returns_answer ht hp.1)
        refine ih (filed_answer hm ht (xs 0)) hm' hn' hrest hq ?_
        rw [store_answer hm]
        rw [List.count_cons_self] at hturns
        exact Nat.le_of_succ_le_succ hturns
    | false =>
      have hturns : (p.alone xs t.store).dialogue.length ≤ turns.count true := by
        simpa using hturns
      cases q with
      | done o =>
        simp only [alternate, step_answer_of_done hn]
        exact ih ht hm hn hp hq hturns
      | ask r next =>
        obtain ⟨hn', hm'⟩ := activities_turn hn hm hmn.symm (ys 0)
        have hrest := hq.2 _ ((ys 0).returns_answer ht hq.1)
        refine ih (filed_answer hn ht (ys 0)) hm' hn' hp hrest ?_
        -- a turn of the other call does not change what this one comes to alone
        have hsame := (ys 0).answer_sameBut t.store hq.1
        obtain ⟨-, hdialogue, -⟩ :=
          hp.alone_congr ((ys 0).filed ht r) (hsame.recordUnder hne) xs
        rwa [store_answer hn, hdialogue]

end Alternating

/-! ## One call after the other -/

/-- Calls of different payments that are performed one after the other come to what each of them
comes to alone. -/
theorem endsApart_perform {P : Outcome c.Result → Prop} {Q : Outcome d.Result → Prop}
    (hne : text ≠ other) (ht : t.store.Filed) (hp : c.attempt.run.Confined text P)
    (hq : d.attempt.run.Confined other Q) (xs ys : Nat → Cue) :
    EndsApart t ((t.perform c xs).perform d ys) text other t.activities.length
      (t.activities.length + 1) (c.attempt.run.alone xs t.store)
      (d.attempt.run.alone ys t.store) := by
  have hfiled := c.attempt.run.filed_alone xs ht
  have hsame := hp.alone_sameBut ht xs
  have hsame' := hq.alone_sameBut hfiled ys
  obtain ⟨hresult, hdialogue, hrecord⟩ := hq.alone_congr hfiled (hsame.recordUnder hne.symm) ys
  have hlength := length_activities_perform t c xs
  have hstore := store_perform t c xs
  have hheard : (d.attempt.run.alone ys (c.attempt.run.alone xs t.store).store).events =
      (d.attempt.run.alone ys t.store).events := by
    rw [Solo.events, Solo.events, hdialogue]
  have hevents (i : PaymentId) : ((t.perform c xs).perform d ys).events i =
      (t.events i ++ if i.text = text then (c.attempt.run.alone xs t.store).events else []) ++
        if i.text = other then (d.attempt.run.alone ys t.store).events else [] := by
    rw [events_perform, events_perform, hstore, hp.events_alone ht, hq.events_alone hfiled, hheard]
  exact
    { first := activities_perform (activities_perform_self t c xs) d ys
      second := by
        rw [← hresult, ← hstore, ← hlength]
        exact activities_perform_self (t.perform c xs) d ys
      dialogueFirst := by
        rw [dialogue_perform, dialogue_perform, hlength, if_pos rfl, if_neg (Nat.succ_ne_self _),
          List.append_nil]
      dialogueSecond := by
        rw [dialogue_perform, dialogue_perform, hlength, hstore, hdialogue, if_pos rfl,
          if_neg (Nat.succ_ne_self _).symm, List.append_nil]
      store := by
        rw [store_perform, hstore]
        exact
          { keys := hsame'.keys.trans hsame.keys
            byGatewayPayment := hsame'.byGatewayPayment.trans hsame.byGatewayPayment
            byOrder := hsame'.byOrder.trans hsame.byOrder
            first := hsame'.recordUnder hne
            second := hrecord
            others := fun i hi hi' => (hsame'.others i hi').trans (hsame.others i hi) }
      eventsFirst := by
        intro i hi
        rw [hevents, if_pos hi, if_neg (hi ▸ hne), List.append_nil]
      eventsSecond := by
        intro i hi
        rw [hevents, if_neg (hi ▸ hne.symm), if_pos hi, List.append_nil]
      eventsOthers := by
        intro i hi hi'
        rw [hevents, if_neg hi, if_neg hi', List.append_nil, List.append_nil] }

/-- Two refunds or deletions of different payments do not interfere. However their requests
alternate, both come to their ends, and then to what each comes to alone: they return and ask the
same, they leave the store that they leave one after the other, in either order, and the same is
announced about every payment. What such a call comes to, and the record that it leaves, depend on
the record of its payment only, and no other record changes. -/
theorem calls_do_not_interfere (moves : List Move) {c d : Call} {text other : String}
    (hne : text ≠ other) (hc : c.AimsAt text) (hd : d.AimsAt other) (xs ys : Nat → Cue) :
    let t := after moves
    let m := t.activities.length
    let n := m + 1
    let x := c.attempt.run.alone xs t.store
    let y := d.attempt.run.alone ys t.store
    let inOrder := (t.perform c xs).perform d ys
    let reversed := (t.perform d ys).perform c xs
    (∀ turns,
      let u := alternate m n turns xs ys ((t.step (.call c)).step (.call d))
      (x.dialogue.length ≤ turns.count true → ∃ o, u.activities[m]? = some ⟨c, .done o⟩) ∧
      (y.dialogue.length ≤ turns.count false → ∃ o, u.activities[n]? = some ⟨d, .done o⟩) ∧
      ((∃ o, u.activities[m]? = some ⟨c, .done o⟩) → (∃ o, u.activities[n]? = some ⟨d, .done o⟩) →
        EndsApart t u text other m n x y ∧ u.store = inOrder.store ∧ u.store = reversed.store ∧
        ∀ i, u.events i = inOrder.events i ∧ u.events i = reversed.events i)) ∧
    EndsApart t inOrder text other m n x y ∧ EndsApart t reversed text other n m x y ∧
    Store.SameBut text t.store x.store ∧
    ∀ moves', let s := (after moves').store
      s.recordUnder text = t.store.recordUnder text →
        let x' := c.attempt.run.alone xs s
        x'.result = x.result ∧ x'.dialogue = x.dialogue ∧
        x'.store.recordUnder text = x.store.recordUnder text := by
  intro t m n x y inOrder reversed
  obtain ⟨P, hp⟩ := hc.confined
  obtain ⟨Q, hq⟩ := hd.confined
  have ht : t.store.Filed := (sound_after moves).filed
  have horder : EndsApart t inOrder text other m n x y := endsApart_perform hne ht hp hq xs ys
  have hreversed : EndsApart t reversed text other n m x y :=
    (endsApart_perform hne.symm ht hq hp ys xs).symm
  refine ⟨?_, horder, hreversed, hp.alone_sameBut ht xs, ?_⟩
  · intro turns u
    let both := (t.step (.call c)).step (.call d)
    have hmn : m ≠ n := (Nat.succ_ne_self m).symm
    have hlength : (t.step (.call c)).activities.length = n := List.length_append
    have hm : both.activities[m]? = some ⟨c, c.attempt.run⟩ :=
      (List.getElem?_append_left (hlength ▸ Nat.lt_succ_self m)).trans List.getElem?_concat_length
    have hn : both.activities[n]? = some ⟨d, d.attempt.run⟩ :=
      hlength ▸ List.getElem?_concat_length
    refine ⟨over_alternate (t := both) hne hmn turns ht hm hn hp hq, ?_, ?_⟩
    · intro hturns
      have hcount : (turns.map not).count true = turns.count false :=
        List.count_map_of_injective turns not (fun _ _ => Bool.not_inj) false
      show ∃ o, (alternate m n turns xs ys both).activities[n]? = _
      rw [alternate_swap]
      exact over_alternate (t := both) hne.symm hmn.symm (turns.map not) ht hn hm hq hp
        (hcount ▸ hturns)
    · intro hover hover'
      have hapart : EndsApart t u text other m n x y :=
        (endsApart_alternate (t := both) hne hmn turns ht hm hn hp hq hover hover').of_call.of_call
      exact ⟨hapart, hapart.store_eq horder, hapart.store_eq hreversed,
        fun i => ⟨hapart.events_eq horder i, hapart.events_eq hreversed i⟩⟩
  · intro moves' s hs
    exact hp.alone_congr (sound_after moves').filed hs xs

/-- Two payments are registered. -/
def twoPayments : List Move :=
  let second := { Sample.registration with orderId := "order-2", gatewayPaymentId := "pg-2" }
  .call (.register Sample.registration) :: List.replicate 8 (.answer 0 Sample.cue) ++
    .call (.register second) :: List.replicate 8 (.answer 1 Sample.cue)

/-- One of them is refunded and the other deleted, in turns. -/
theorem calls_do_not_interfere_of_two_payments :
    let t := after twoPayments
    let c := Call.refund "x" "order-1" "changed my mind"
    let d := Call.delete "xx" "operator"
    let cues := fun _ => Sample.cue
    let u := alternate 2 3 [true, false, true, false, true, true, true, true, true] cues cues
      ((t.step (.call c)).step (.call d))
    "x" ≠ "xx" ∧ c.AimsAt "x" ∧ d.AimsAt "xx" ∧
      (u.store.record? Sample.identity).map Payment.status = some .refunded ∧
      (u.store.recordUnder "xx").map Payment.isDeleted = some true ∧
      (u.events Sample.identity).length = 1 ∧
      u.store = ((t.perform c cues).perform d cues).store ∧
      u.store = ((t.perform d cues).perform c cues).store := by
  intro t c d cues u
  obtain ⟨hturns, -⟩ :=
    calls_do_not_interfere twoPayments (c := c) (d := d) (by decide) rfl rfl cues cues
  obtain ⟨hover, hover', hapart⟩ := hturns [true, false, true, false, true, true, true, true, true]
  obtain ⟨-, hstore, hstore', -⟩ := hapart (hover (by decide +kernel)) (hover' (by decide +kernel))
  exact ⟨by decide, rfl, rfl, by decide +kernel, by decide +kernel, by decide +kernel, hstore,
    hstore'⟩

end Traffic

end Payments
