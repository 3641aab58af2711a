import Mathlib.Data.List.Forall2
import Payments.Proofs.EventLog.Line

/-!
# Payments.Proofs.EventLog.Relay -- the log holds what was announced

A publisher puts envelopes into a queue, and a relay takes them out one after another and writes
them to a sink, in whatever turns the two come (`Channel.step`). When nothing more is announced, the
relay takes what is left and ends (`Channel.close`). How the turns were mixed makes no difference
(`Channel.close_steps`).

The sink may refuse any write, of which it then keeps nothing, and any flush. `Failures` says which,
by their numbers: an event is written once, so the number of an event is that of its write, and
every write that succeeds is followed by one flush, so the number of a line is that of its flush.
What the sink holds in the end, and what the relay reports, is read off these numbers
(`Channel.log_holds_events`).

Two things about an event are lost on its way through a text: that a zero had a sign, and that an
instant was a leap second amid a minute (`Channel.log_alters_events`).
-/

namespace Payments

/-! ## Sinks that fail -/

/-- Why the write and the flush of each number, counted from zero, fail, if they do. -/
structure Failures where
  write : Nat → Option String
  flush : Nat → Option String

/-- What a sink holds, and how often it was told to write and to flush. -/
structure Device where
  contents : List Char
  writes : Nat
  flushes : Nat

/-- A device on which nothing is written. -/
def Device.blank : Device :=
  ⟨[], 0, 0⟩

namespace Failures

variable (f : Failures)

/-- A device as a sink. A write is taken as a whole or not at all. -/
def sink : Sink (StateM Device) where
  write text := fun d =>
    match f.write d.writes with
    | some reason => (.error reason, { d with writes := d.writes + 1 })
    | none => (.ok (), { d with contents := d.contents ++ text.toList, writes := d.writes + 1 })
  flush := fun d =>
    match f.flush d.flushes with
    | some reason => (.error reason, { d with flushes := d.flushes + 1 })
    | none => (.ok (), { d with flushes := d.flushes + 1 })

/-- Those of some things, written one after another from a number on, whose write succeeds. -/
def keptFrom {α : Type} (n : Nat) : List α → List α
  | [] => []
  | a :: as => if (f.write n).isNone then a :: keptFrom (n + 1) as else keptFrom (n + 1) as

/-- Those of some things, written one after another from the beginning, whose write succeeds. -/
def kept {α : Type} (as : List α) : List α :=
  f.keptFrom 0 as

/-- How many of so many flushes, from a number on, succeed. -/
def flushedFrom (n count : Nat) : Nat :=
  (List.range' n count).countP fun k => (f.flush k).isNone

theorem keptFrom_map {α β : Type} (g : α → β) (n : Nat) (as : List α) :
    f.keptFrom n (as.map g) = (f.keptFrom n as).map g := by
  induction as generalizing n with
  | nil => rfl
  | cons a as ih =>
    simp only [List.map_cons, keptFrom]
    split <;> simp [ih]

/-! ## One envelope after another -/

theorem run_write (text : String) (d : Device) :
    (f.sink.write text).run d = pure ((f.write d.writes).elim
      (.ok (), { d with contents := d.contents ++ text.toList, writes := d.writes + 1 })
      fun reason => (.error reason, { d with writes := d.writes + 1 })) := by
  show (f.sink.write text) d = _
  simp only [sink]
  cases f.write d.writes <;> rfl

theorem run_flush (d : Device) :
    f.sink.flush.run d = pure ((f.flush d.flushes).elim (.ok ()) .error,
      { d with flushes := d.flushes + 1 }) := by
  show f.sink.flush d = _
  simp only [sink]
  cases f.flush d.flushes <;> rfl

/-- An envelope whose write fails leaves no trace. Of any other the line is held, and it counts if
it was pushed through. -/
theorem run_take (delivered : Nat) (e : Envelope) (d : Device) :
    (Relay.take f.sink delivered e).run d =
      if (f.write d.writes).isNone then
        (delivered + if (f.flush d.flushes).isNone then 1 else 0,
          ⟨d.contents ++ (e.line.toList ++ ['\n']), d.writes + 1, d.flushes + 1⟩)
      else (delivered, { d with writes := d.writes + 1 }) := by
  have hfeed : (e.line ++ "\n").toList = e.line.toList ++ ['\n'] := String.toList_append
  cases hw : f.write d.writes with
  | some reason =>
    simp [Relay.take, Relay.deliver, run_write, hw]
    rfl
  | none =>
    cases hf : f.flush d.flushes <;>
      simp [Relay.take, Relay.deliver, run_write, run_flush, hw, hf, hfeed] <;>
      rfl

theorem flushedFrom_succ (n count : Nat) :
    f.flushedFrom n (count + 1) =
      (if (f.flush n).isNone then 1 else 0) + f.flushedFrom (n + 1) count := by
  rw [flushedFrom, List.range'_succ, List.countP_cons, Nat.add_comm]
  rfl

/-- What envelopes leave behind that are written one after another. -/
theorem run_foldlM_take (es : List Envelope) (delivered : Nat) (d : Device) :
    (es.foldlM (Relay.take f.sink) delivered).run d =
      (delivered + f.flushedFrom d.flushes (f.keptFrom d.writes es).length,
        ⟨d.contents ++ (f.keptFrom d.writes es).flatMap (fun e => e.line.toList ++ ['\n']),
          d.writes + es.length, d.flushes + (f.keptFrom d.writes es).length⟩) := by
  induction es generalizing delivered d with
  | nil => simp [keptFrom, flushedFrom]; rfl
  | cons e es ih =>
    rw [List.foldlM_cons, StateT.run_bind, run_take]
    by_cases hw : (f.write d.writes).isNone
    · rw [if_pos hw]
      show (es.foldlM (Relay.take f.sink) _).run _ = _
      rw [ih, keptFrom, if_pos hw, List.length_cons, List.length_cons, flushedFrom_succ]
      simp [Nat.add_assoc, Nat.add_comm 1]
    · rw [if_neg hw]
      show (es.foldlM (Relay.take f.sink) _).run _ = _
      rw [ih, keptFrom, if_neg hw, List.length_cons]
      simp [Nat.add_assoc, Nat.add_comm 1]

/-- The whole run of a relay. The last flush comes after those of the lines that were kept. -/
theorem run_relay (es : List Envelope) :
    ((Relay.run f.sink es).run .blank).1 =
        (match f.flush (f.kept es).length with
          | some reason => .error (.inputOutput reason)
          | none => .ok (f.flushedFrom 0 (f.kept es).length)) ∧
      ((Relay.run f.sink es).run .blank).2.contents =
        (f.kept es).flatMap fun e => e.line.toList ++ ['\n'] := by
  rw [Relay.run, StateT.run_bind, run_foldlM_take]
  show ((Relay.finish f.sink _).run _).1 = _ ∧ ((Relay.finish f.sink _).run _).2.contents = _
  simp only [Device.blank, Nat.zero_add, List.nil_append]
  cases hf : f.flush (f.kept es).length <;>
    simp [kept] at hf <;>
    simp [Relay.finish, run_flush, hf, kept] <;>
    exact ⟨rfl, rfl⟩

/-- Of three lines the second is refused, and the first one is not pushed through. -/
example :
    let f : Failures :=
      ⟨fun n => if n = 1 then some "full" else none, fun n => if n = 0 then some "slow" else none⟩
    f.kept ["a", "b", "c"] = ["a", "c"] ∧ f.flushedFrom 0 2 = 1 := by
  decide

end Failures

/-! ## Announcing and writing in turns -/

/-- A turn of the publisher, who announces something, or of the relay. -/
inductive Turn where
  | publish (eventId : String) (at_ : Instant) (e : Event)
  | relay

/-- The envelopes that wait, how many were delivered, and what the device holds. -/
structure Channel where
  waiting : List Envelope
  delivered : Nat
  device : Device

namespace Channel

variable (topics : Topics) (f : Failures)

/-- A channel through which nothing has gone. -/
def start : Channel :=
  ⟨[], 0, .blank⟩

/-- Takes a turn: the publisher puts an envelope behind those that wait, and the relay takes the
first of them, if there is one. -/
def step (c : Channel) : Turn → Channel
  | .publish eventId at_ e => { c with waiting := c.waiting ++ [.of topics eventId at_ e] }
  | .relay =>
    match c.waiting with
    | [] => c
    | e :: es =>
      let (delivered, device) := (Relay.take f.sink c.delivered e).run c.device
      ⟨es, delivered, device⟩

/-- Takes turns one after another. -/
def steps (c : Channel) (turns : List Turn) : Channel :=
  turns.foldl (step topics f) c

/-- Nothing more is announced: the relay takes what is left and ends. -/
def close (c : Channel) : Except PaymentError Nat × Device :=
  (c.waiting.foldlM (Relay.take f.sink) c.delivered >>= Relay.finish f.sink).run c.device

/-- What is announced in the turns. -/
def announced (turns : List Turn) : List (String × Instant × Event) :=
  turns.filterMap fun
    | .publish eventId at_ e => some (eventId, at_, e)
    | .relay => none

/-- The envelopes of what is announced. -/
def envelopes (turns : List Turn) : List Envelope :=
  (announced turns).map fun (eventId, at_, e) => .of topics eventId at_ e

/-- The events that are announced. -/
def events (turns : List Turn) : List Event :=
  (announced turns).map fun (_, _, e) => e

/-- In the end it makes no difference when the relay took its turns. -/
theorem close_steps (c : Channel) (turns : List Turn) :
    close f (c.steps topics f turns) =
      close f { c with waiting := c.waiting ++ envelopes topics turns } := by
  induction turns generalizing c with
  | nil => simp [steps, envelopes, announced]
  | cons turn turns ih =>
    show close f ((c.step topics f turn).steps topics f turns) = _
    rw [ih]
    cases turn with
    | publish eventId at_ e => simp [step, envelopes, announced]
    | relay =>
      cases hwaiting : c.waiting with
      | nil => simp [step, hwaiting, envelopes, announced]
      | cons e es =>
        have hstep : c.step topics f .relay =
            ⟨es, ((Relay.take f.sink c.delivered e).run c.device).1,
              ((Relay.take f.sink c.delivered e).run c.device).2⟩ := by
          simp only [step, hwaiting]
          rfl
        rw [hstep, close, close, List.cons_append, List.foldlM_cons]
        rfl

/-- Seen from its end, the relay has taken all envelopes one after another. -/
theorem close_start (turns : List Turn) :
    close f (start.steps topics f turns) =
      (Relay.run f.sink (envelopes topics turns)).run .blank := by
  rw [close_steps]
  rfl

/-- Events are announced and relayed in any turns, to a sink that fails in any way. In the end the
sink holds one line for each event whose write succeeded, in the order in which they were announced,
and nothing else. No line has a line feed in it, and each is read as an envelope that carries the
event (`Envelope.Carries`). The relay reports how many of these events were also pushed through, or
why the last flush failed. -/
theorem log_holds_events (turns : List Turn) :
    (∃ lines : List String,
        (close f (start.steps topics f turns)).2.contents =
            lines.flatMap (fun line => line.toList ++ ['\n']) ∧
          (∀ line ∈ lines, '\n' ∉ line.toList) ∧
          List.Forall₂ (fun line e => ∃ envelope, Envelope.codec.parse line = .ok envelope ∧
            envelope.Carries topics e) lines (f.kept (events turns))) ∧
      (close f (start.steps topics f turns)).1 =
        match f.flush (f.kept (events turns)).length with
        | some reason => .error (.inputOutput reason)
        | none => .ok (f.flushedFrom 0 (f.kept (events turns)).length) := by
  obtain ⟨hresult, hcontents⟩ := f.run_relay (envelopes topics turns)
  -- envelopes and events are made of the same announcements, and so are those that are kept
  have hkept : f.kept (envelopes topics turns) =
      (f.kept (announced turns)).map fun (eventId, at_, e) => .of topics eventId at_ e :=
    f.keptFrom_map _ 0 (announced turns)
  have hevents : f.kept (events turns) = (f.kept (announced turns)).map fun (_, _, e) => e :=
    f.keptFrom_map _ 0 (announced turns)
  rw [hkept] at hresult hcontents
  rw [close_start, hevents]
  simp only [List.length_map] at hresult ⊢
  refine ⟨⟨(f.kept (announced turns)).map fun (eventId, at_, e) =>
    (Envelope.of topics eventId at_ e).line, ?contents, ?newline, ?carries⟩, hresult⟩
  case contents => rw [hcontents, List.flatMap_map, List.flatMap_map]
  case newline =>
    intro line hline
    obtain ⟨⟨eventId, at_, e⟩, -, rfl⟩ := List.mem_map.1 hline
    exact Envelope.newline_not_mem_line topics eventId at_ e
  case carries =>
    rw [List.forall₂_map_left_iff, List.forall₂_map_right_iff, List.forall₂_same]
    rintro ⟨eventId, at_, e⟩ -
    exact Envelope.carries_of topics eventId at_ e

/-- Two refunds have failed, one in a leap second amid a minute and one of a zero with a sign. Both
are announced, and nothing fails on the way. Their lines are read as envelopes from whose payloads
other announcements are read: one of a second later, and one of a zero without a sign. -/
theorem log_alters_events :
    let f : Failures := ⟨fun _ => none, fun _ => none⟩
    let noon : Instant := ⟨⟨2024, 5, 1, by decide⟩, 43200, 0, by decide, by decide⟩
    let leap : Instant := ⟨⟨2024, 5, 1, by decide⟩, 43230, 1500000000, by decide, by decide⟩
    let later : Instant := ⟨⟨2024, 5, 1, by decide⟩, 43231, 500000000, by decide, by decide⟩
    let zero : Decimal := ⟨false, 0, 28, by decide, by decide⟩
    let signed : Decimal := ⟨true, 0, 28, by decide, by decide⟩
    let failure (requested : Decimal) (failedAt : Instant) : Event :=
      .refundFailed ⟨"payment-1", "order-1", requested, "declined", failedAt⟩
    let turns : List Turn :=
      [.publish "event-1" noon (failure zero leap), .relay,
        .publish "event-2" noon (failure signed noon)]
    ∃ first second : String,
      (close f (start.steps .default f turns)).2.contents =
          [first, second].flatMap (fun line => line.toList ++ ['\n']) ∧
        (∃ envelope, Envelope.codec.parse first = .ok envelope ∧
          envelope.eventType.parse envelope.payload.render = .ok (failure zero later)) ∧
        failure zero later ≠ failure zero leap ∧
        (∃ envelope, Envelope.codec.parse second = .ok envelope ∧
          envelope.eventType.parse envelope.payload.render = .ok (failure zero noon)) ∧
        failure zero noon ≠ failure signed noon := by
  intro f noon leap later zero signed failure turns
  have hcontents := (f.run_relay (envelopes .default turns)).2
  rw [← close_start] at hcontents
  have hfirst := Envelope.parse_payload .default "event-1" noon (failure zero leap)
  have hsecond := Envelope.parse_payload .default "event-2" noon (failure signed noon)
  have hleap : (failure zero leap).revise .reread = failure zero later := by decide
  have hsigned : (failure signed noon).revise .reread = failure zero noon := by decide
  rw [hleap] at hfirst
  rw [hsigned] at hsecond
  exact ⟨_, _, hcontents, ⟨_, (Envelope.gives_of _ _ _ _).parse, hfirst⟩, by decide,
    ⟨_, (Envelope.gives_of _ _ _ _).parse, hsecond⟩, by decide⟩

end Channel

end Payments
