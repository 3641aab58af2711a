import Payments.EventLog

/-!
# Payments.Rehearsal.Tape -- a sink that keeps what is written to it

A tape takes every line, except for those that it is told to refuse, and may be told to fail
whenever it is asked to push its lines through. A line that it takes stays, whether or not that
succeeds.
-/

namespace Payments.Rehearsal

/-- The lines written so far, and which steps fail. -/
structure Tape where
  lines : List String
  /-- How many lines were handed over, those refused included. -/
  attempts : Nat
  /-- The numbers of the lines that are refused, counted from one. -/
  refused : List Nat
  flushFails : Bool

namespace Tape

/-- A tape on which nothing is written and every step succeeds. -/
def blank : Tape :=
  ⟨[], 0, [], false⟩

/-- Hands a line over. -/
def write (line : String) : StateM Tape (Except String Unit) := do
  let t ← get
  if t.refused.contains (t.attempts + 1) then
    set { t with attempts := t.attempts + 1 }
    return .error "write failed"
  else
    set { t with attempts := t.attempts + 1, lines := t.lines ++ [line] }
    return .ok ()

/-- The tape as a sink. -/
def sink : Sink (StateM Tape) where
  write := write
  flush := do
    if (← get).flushFails then return .error "flush failed" else return .ok ()

end Tape

end Payments.Rehearsal
