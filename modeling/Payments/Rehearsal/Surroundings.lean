import Payments.Consumer
import Payments.Rehearsal.Tape

/-!
# Payments.Rehearsal.Surroundings -- the service among scripted surroundings

A rehearsal is a whole world for the service to work in, held in one value: a store, a gateway that
gives answers laid down beforehand, an audience for announcements, a clock and a supply of random
numbers. The clock goes on by a nanosecond with every reading, so no two readings are equal.

The store may be told to misbehave in ways in which a shared store can: look-ups that miss what has
just been written, a look-up that keeps showing an old copy, and writes that fail.
-/

namespace Payments.Rehearsal

/-- Who listens to announcements. -/
inductive Audience where
  /-- Announcements are kept. -/
  | recording
  /-- Announcements fail. -/
  | deaf
  /-- Announcements become lines of a log. -/
  | logging (topics : Topics)

/-- How often the store still misses what it holds. -/
structure Misses where
  findByGatewayPayment : Nat
  holdsGatewayPayment : Nat
  holdsOrder : Nat

/-- Writes that fail: so many after so many. -/
structure Outage where
  after : Nat
  length : Nat

/-- A world for the service. -/
structure Surroundings where
  store : Store
  /-- The number of clock readings so far. -/
  readings : Nat
  /-- The first random number; those for identities and those for envelopes count on from it. -/
  seed : Nat
  /-- The identities given so far. -/
  minted : List PaymentId
  lookupAnswer : Except GatewayError Gateway.PaymentAnswer
  cancelAnswer : Except GatewayError Gateway.CancelAnswer
  /-- The payment keys that were looked up. -/
  lookups : List String
  /-- The payment keys that were cancelled, with the orders. -/
  cancels : List (String × Gateway.CancelOrder)
  audience : Audience
  events : List Event
  envelopes : List Envelope
  misses : Misses
  outage : Outage
  /-- The payment that a look-up by its identity shows, whatever the store holds. -/
  snapshot : Option (PaymentId × Payment)

/-- What happens in a world. -/
abbrev Scene (α : Type) := StateM Surroundings α

/-- A world in which nothing has happened and nothing is amiss. -/
def Surroundings.calm (seed : Nat) (lookupAnswer : Except GatewayError Gateway.PaymentAnswer)
    (cancelAnswer : Except GatewayError Gateway.CancelAnswer) (audience : Audience) :
    Surroundings where
  store := ∅
  readings := 0
  seed := seed
  minted := []
  lookupAnswer := lookupAnswer
  cancelAnswer := cancelAnswer
  lookups := []
  cancels := []
  audience := audience
  events := []
  envelopes := []
  misses := ⟨0, 0, 0⟩
  outage := ⟨0, 0⟩
  snapshot := none

/-! ## Clock and random numbers -/

/-- The second in which all clock readings lie: 23 November 2027, 12:34:56. -/
def secondOfDay : Nat := 12 * 3600 + 34 * 60 + 56

/-- Clock reading number `n`. -/
def instantAt (n : Nat) : Instant where
  date := ⟨2027, 11, 23, by decide⟩
  second := secondOfDay
  nano := 500000000 + n % 500000000
  second_lt := by decide
  nano_lt := by omega

/-- Reads the clock. -/
def readClock : Scene Instant := do
  let s ← get
  set { s with readings := s.readings + 1 }
  return instantAt s.readings

/-- The identity that the next inserted payment gets. -/
def freshId (s : Surroundings) : PaymentId :=
  .ofRandom (s.seed + s.minted.length + 1)

/-- The identifier that the next envelope gets. -/
def freshEventId (s : Surroundings) : String :=
  Text.uuid (s.seed + twoTo 62 + s.envelopes.length + 1)

/-! ## The store and its faults -/

/-- Passes a request on to the store. An identity counts as given when a payment was inserted. -/
def serve (r : StoreRequest) : Scene r.Answer := do
  let now ← readClock
  let s ← get
  let fresh := freshId s
  let (answer, store) := r.serve now fresh s.store
  let minted := if store.size = s.store.size then s.minted else s.minted ++ [fresh]
  set { s with store, minted }
  return answer

/-- Whether a write fails by script; takes note of the attempt. -/
def tripOutage : Scene Bool := do
  let s ← get
  if 0 < s.outage.after then
    set { s with outage := { s.outage with after := s.outage.after - 1 } }
    return false
  else if 0 < s.outage.length then
    set { s with outage := { s.outage with length := s.outage.length - 1 } }
    return true
  else return false

/-- The payment that a look-up by identity is made to show. -/
def shown? (s : Surroundings) (id : PaymentId) : Option Payment :=
  (s.snapshot.filter fun shown => shown.1 = id).map Prod.snd

/-- Answers a request to the store, faults included. -/
def consult : (r : StoreRequest) → Scene r.Answer
  | .save p => do
    if ← tripOutage then return refuse (.settings "store unavailable") else serve (.save p)
  | .findById id => do
    match shown? (← get) id with
    | some p => return some p
    | none => serve (.findById id)
  | .findByGatewayPayment id => do
    let s ← get
    match s.misses.findByGatewayPayment with
    | left + 1 =>
      set { s with misses := { s.misses with findByGatewayPayment := left } }
      return none
    | 0 => serve (.findByGatewayPayment id)
  | .holdsGatewayPayment id => do
    let s ← get
    match s.misses.holdsGatewayPayment with
    | left + 1 =>
      set { s with misses := { s.misses with holdsGatewayPayment := left } }
      return false
    | 0 => serve (.holdsGatewayPayment id)
  | .holdsOrder orderId => do
    let s ← get
    match s.misses.holdsOrder with
    | left + 1 =>
      set { s with misses := { s.misses with holdsOrder := left } }
      return false
    | 0 => serve (.holdsOrder orderId)
  | .delete p deletedBy => serve (.delete p deletedBy)
  | .findByOrder orderId => serve (.findByOrder orderId)
  | .search c page => serve (.search c page)

/-! ## The other surroundings -/

/-- Announces something to the audience. -/
def announce (e : Event) : Scene (Except PaymentError Unit) := do
  let s ← get
  match s.audience with
  | .recording =>
    set { s with events := s.events ++ [e] }
    return .ok ()
  | .deaf => return .error (.internal "nobody listens")
  | .logging topics =>
    let now ← readClock
    modify fun s => { s with envelopes := s.envelopes ++ [.of topics (freshEventId s) now e] }
    return .ok ()

/-- Answers any request. -/
def answer : (r : Request) → Scene r.Answer
  | .now => readClock
  | .store r => consult r
  | .lookup key => do
    modify fun s => { s with lookups := s.lookups ++ [key] }
    return (← get).lookupAnswer
  | .cancel key order => do
    modify fun s => { s with cancels := s.cancels ++ [(key, order)] }
    return (← get).cancelAnswer
  | .publish e => announce e

/-! ## Performances -/

/-- Carries out an attempt. -/
def perform {α : Type} (a : Attempt α) : Scene (Outcome α) :=
  a.run.run answer

/-- Carries out two attempts that overlap. The first goes as far as the gateway's answer, then the
second does, and then they finish in the same order. -/
def overlap {α : Type} (a b : Attempt α) : Scene (Outcome α × Outcome α) := do
  let a ← a.run.runThroughGateway answer
  let b ← b.run.runThroughGateway answer
  let first ← a.run answer
  let second ← b.run answer
  return (first, second)

/-- Hides what has just been written from so many look-ups of each kind. -/
def missReads (count : Nat) : Scene Unit :=
  modify fun s => { s with misses := ⟨count, count, count⟩ }

/-- Makes so many writes fail after so many more. -/
def failSaves (after length : Nat) : Scene Unit :=
  modify fun s => { s with outage := ⟨after, length⟩ }

/-- Makes look-ups of an identity show the payment as it is now, deleted or not; an unknown identity
ends that. -/
def takeSnapshot (id : PaymentId) : Scene Unit :=
  modify fun s => { s with snapshot := (s.store.record? id).map fun p => (id, p) }

/-- Makes look-ups show what the store holds. -/
def dropSnapshot : Scene Unit :=
  modify fun s => { s with snapshot := none }

/-- The log that the envelopes published so far make, and how many were delivered. -/
def log (s : Surroundings) : Except PaymentError Nat × Tape :=
  (Relay.run Tape.sink s.envelopes).run Tape.blank

end Payments.Rehearsal
