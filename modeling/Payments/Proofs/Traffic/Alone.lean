import Payments.Proofs.Traffic.Dialogue
import Payments.Proofs.Traffic.InTurn

/-!
# Payments.Proofs.Traffic.Alone -- a call that runs alone

When nothing else uses the store, a call goes from its first request to its result, each request
answered by the store as the last one left it. `Procedure.alone` is this run as a whole: the result,
the store that is left, and the dialogue of the call, in which its orders to the gateway and its
announcements can be counted.

To serve a call to its end among others that wait is such a run (`Traffic.perform_eq`), so what is
shown of a run alone holds of every call that is performed in turn.
-/

namespace Payments

/-- What a procedure comes to when it runs alone: its result, the store that it leaves, and what it
asked and was answered on the way. -/
structure Solo (α : Type) where
  result : α
  store : Store
  dialogue : List Reply

namespace Reply

/-- The reply as an exchange of a call. -/
def by_ (d : Reply) (n : Nat) (c : Call) : Exchange :=
  ⟨n, c, d.request, d.answer⟩

/-- What was announced, heard or not. -/
def event? (d : Reply) : Option Event :=
  match d.request with
  | .publish e => some e
  | _ => none

end Reply

/-- A dialogue that is logged for a call is added to its dialogue, and to no other. -/
theorem Exchange.dialogue_append_by (k n : Nat) (c : Call) (log : List Exchange)
    (ds : List Reply) :
    Exchange.dialogue k (log ++ ds.map fun d => d.by_ n c) =
      Exchange.dialogue k log ++ if n = k then ds else [] := by
  rw [Exchange.dialogue, List.filter_append, List.map_append]
  congr 1
  have hcaller : ∀ x ∈ ds.map fun d => d.by_ n c, x.caller = n := by
    intro x hx
    obtain ⟨d, -, rfl⟩ := List.mem_map.1 hx
    rfl
  by_cases hn : n = k
  · subst hn
    rw [if_pos rfl, List.filter_eq_self.2 fun x hx => beq_iff_eq.2 (hcaller x hx), List.map_map]
    exact List.map_id ds
  · rw [if_neg hn, List.filter_eq_nil_iff.2]
    · rfl
    · intro x hx hk
      exact hn ((hcaller x hx).symm.trans (beq_iff_eq.1 hk))

namespace Solo

variable {α : Type}

/-- The run with a reply before its dialogue. -/
def following (d : Reply) (x : Solo α) : Solo α :=
  { x with dialogue := d :: x.dialogue }

/-- What was announced, in order. -/
def events (x : Solo α) : List Event :=
  x.dialogue.filterMap Reply.event?

theorem events_following (d : Reply) (x : Solo α) :
    (x.following d).events = d.event?.toList ++ x.events := by
  unfold events following
  rw [List.filterMap_cons]
  cases d.event? <;> rfl

/-- What the gateway was asked or told, in order. -/
def gatewayRequests (x : Solo α) : List Request :=
  (x.dialogue.map Reply.request).filter Request.isForGateway

end Solo

/-- Carries a procedure out alone. -/
def Procedure.alone {α : Type} : Procedure α → (Nat → Cue) → Store → Solo α
  | done a, _, s => ⟨a, s, []⟩
  | ask r next, cues, s =>
    ((next ((cues 0).answer s r).1).alone (fun k => cues (k + 1)) ((cues 0).answer s r).2).following
      ⟨r, ((cues 0).answer s r).1⟩

namespace Procedure

variable {α : Type}

theorem alone_ask (r : Request) (next : r.Answer → Procedure α) (cues : Nat → Cue) (s : Store) :
    (ask r next).alone cues s =
      ((next ((cues 0).answer s r).1).alone (fun k => cues (k + 1))
        ((cues 0).answer s r).2).following ⟨r, ((cues 0).answer s r).1⟩ :=
  rfl

theorem filed_alone (p : Procedure α) (cues : Nat → Cue) {s : Store} (hs : s.Filed) :
    (p.alone cues s).store.Filed := by
  induction p generalizing cues s with
  | done a => exact hs
  | ask r next ih => exact ih _ _ ((cues 0).filed hs r)

end Procedure

namespace Traffic

variable {t : Traffic} {n : Nat} {c : Call}

/-- To serve a call that waits is to carry it out alone. -/
theorem serve_eq {p : Procedure (Outcome c.Result)} (hn : t.activities[n]? = some ⟨c, p⟩)
    (cues : Nat → Cue) :
    serve n p cues t =
      ⟨(p.alone cues t.store).store, t.activities.set n ⟨c, .done (p.alone cues t.store).result⟩,
        t.log ++ (p.alone cues t.store).dialogue.map fun d => d.by_ n c⟩ := by
  induction p generalizing t cues with
  | done o =>
    have hset : t.activities.set n ⟨c, .done o⟩ = t.activities := by
      obtain ⟨hlt, hget⟩ := List.getElem?_eq_some_iff.1 hn
      rw [← hget, List.set_getElem_self]
    show t = ⟨t.store, t.activities.set n ⟨c, .done o⟩, t.log ++ []⟩
    rw [hset, List.append_nil]
  | ask r next ih =>
    have hlt := (List.getElem?_eq_some_iff.1 hn).1
    have hnext : (t.step (.answer n (cues 0))).activities[n]? =
        some ⟨c, next ((cues 0).answer t.store r).1⟩ := by
      rw [activities_answer hn, if_pos rfl]
    show serve n (next ((cues 0).answer t.store r).1) (fun k => cues (k + 1))
      (t.step (.answer n (cues 0))) = _
    rw [ih _ hnext, step_answer hn]
    simp only [Procedure.alone_ask, Solo.following, List.set_set, List.map_cons,
      List.append_assoc, List.singleton_append]
    rfl

/-- To perform a call is to carry it out alone, and to log its dialogue. -/
theorem perform_eq (t : Traffic) (c : Call) (cues : Nat → Cue) :
    t.perform c cues =
      ⟨(c.attempt.run.alone cues t.store).store,
        t.activities ++ [⟨c, .done (c.attempt.run.alone cues t.store).result⟩],
        t.log ++ (c.attempt.run.alone cues t.store).dialogue.map
          fun d => d.by_ t.activities.length c⟩ := by
  rw [perform, serve_eq List.getElem?_concat_length]
  simp [step]

theorem store_perform (t : Traffic) (c : Call) (cues : Nat → Cue) :
    (t.perform c cues).store = (c.attempt.run.alone cues t.store).store := by
  rw [perform_eq]

theorem length_activities_perform (t : Traffic) (c : Call) (cues : Nat → Cue) :
    (t.perform c cues).activities.length = t.activities.length + 1 := by
  rw [perform_eq, List.length_append, List.length_singleton]

/-- The call that was performed is over. -/
theorem activities_perform_self (t : Traffic) (c : Call) (cues : Nat → Cue) :
    (t.perform c cues).activities[t.activities.length]? =
      some ⟨c, .done (c.attempt.run.alone cues t.store).result⟩ := by
  rw [perform_eq, List.getElem?_concat_length]

/-- The calls that came before it are where they were. -/
theorem activities_perform {a : Activity} (h : t.activities[n]? = some a) (c : Call)
    (cues : Nat → Cue) : (t.perform c cues).activities[n]? = some a := by
  rw [perform_eq]
  exact (List.getElem?_append_left (List.getElem?_eq_some_iff.1 h).1).trans h

theorem dialogue_perform (t : Traffic) (c : Call) (cues : Nat → Cue) (k : Nat) :
    (t.perform c cues).dialogue k =
      t.dialogue k ++
        if t.activities.length = k then (c.attempt.run.alone cues t.store).dialogue else [] := by
  rw [perform_eq]
  exact Exchange.dialogue_append_by k _ c _ _

theorem events_perform (t : Traffic) (c : Call) (cues : Nat → Cue) (i : PaymentId) :
    (t.perform c cues).events i =
      t.events i ++ ((c.attempt.run.alone cues t.store).dialogue.map
        fun d => d.by_ t.activities.length c).flatMap (Exchange.events i) := by
  rw [perform_eq, events, List.flatMap_append]
  rfl

end Traffic

end Payments
