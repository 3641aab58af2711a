import Payments.Calendar.Epoch
import Payments.Gateway.Wire
import Payments.Program
import Std.Async.DNS
import Std.Async.TCP
import Std.Async.Timer
import Std.Time.DateTime.Timestamp

/-!
# Payments.Main -- the program on a real machine

The machine's files, clock, random numbers, terminal and network, as a host for the program. The
network is used without encryption; a server that asks for it counts as one that does not answer.
-/

namespace Payments.Machine

open Std.Async Gateway

/-! ## Files and terminal -/

/-- A result, or nothing if the machine reports a failure. -/
def succeeded {α : Type} (action : IO α) : IO (Option α) := do
  try return some (← action) catch _ => return none

/-- Carries an action out, and says what went wrong if it fails. -/
def reported (action : IO Unit) : IO (Except String Unit) := do
  try
    action
    return .ok ()
  catch e => return .error (toString e)

/-- The lines written to a stream. -/
def streamSink (stream : IO.FS.Stream) : Sink IO where
  write line := reported (stream.putStr line)
  flush := reported stream.flush

/-- The lines written to a file. -/
def fileSink (handle : IO.FS.Handle) : Sink IO :=
  streamSink (.ofHandle handle)

/-! ## Clock and random numbers -/

/-- Reads the clock. -/
def now : IO Instant := do
  let t ← Std.Time.Timestamp.now
  let nanoseconds := t.toNanosecondsSinceUnixEpoch.val.toNat
  match Instant.ofEpoch? (nanoseconds / 1000000000) (nanoseconds % 1000000000) with
  | some t => return t
  | none => throw (IO.userError "the clock is beyond the last year")

/-- A random number of 128 bits. -/
def random : IO Nat := do
  let bytes ← IO.getRandomBytes 16
  return bytes.foldl (fun n b => n * 256 + b.toNat) 0

/-! ## Network -/

/-- What an action gives within a number of milliseconds. -/
def within {α : Type} (milliseconds : Nat) (action : Async α) : Async (Option α) :=
  Async.race (some <$> action) do
    sleep (.ofNat milliseconds)
    return none

/-- Receives all that a server sends. -/
def receive (socket : TCP.Socket.Client) : Async ByteArray := do
  let mut received := ByteArray.empty
  repeat
    match ← socket.recv? 65536 with
    | some bytes => received := received ++ bytes
    | none => break
  return received

/-- Sends a request to one of a server's addresses and receives the response. -/
def exchangeAt (r : HttpRequest) (address : Std.Net.IPAddr) : Async (Option HttpResponse) := do
  let port := (r.url.port.getD 80).toUInt16
  let socket ← TCP.Socket.Client.mk
  let place := match address with
    | .v4 a => .v4 ⟨a, port⟩
    | .v6 a => .v6 ⟨a, port⟩
  match ← within r.connectTimeout (socket.connect place) with
  | none => return none
  | some () =>
    socket.send ⟨r.bytes.toArray⟩
    return HttpResponse.ofBytes? (← receive socket).data.toList

/-- Sends a request to a server and receives the response. -/
def exchangeWith (r : HttpRequest) : Async (Option HttpResponse) := do
  let addresses ← DNS.getAddrInfo (r.url.host.getD "") (toString (r.url.port.getD 80))
  match addresses[0]? with
  | some address => return (← within r.readTimeout (exchangeAt r address)).join
  | none => return none

/-- Sends a request and receives the response. -/
def exchange (r : HttpRequest) : IO (Except TransportError HttpResponse) := do
  let response ← if r.url.scheme = "http" then succeeded (exchangeWith r).block else pure none
  match response.join with
  | some response => return .ok response
  | none => return .error (.unanswered r.url)

/-! ## The host -/

/-- The machine as a host for the program. -/
def host : IO (Host IO) := do
  let terminal ← IO.getStdout
  let errors ← IO.getStderr
  return {
    getVariable := fun name => IO.getEnv name
    readFile := fun path => succeeded do return (← IO.FS.readBinFile path).data.toList
    createFile := fun path => succeeded do return fileSink (← IO.FS.Handle.mk path .write)
    errorSink := streamSink errors
    log := errors.putStrLn
    print := terminal.putStr
    now := now
    random := random
    transport :=
      { exchange := exchange
        pause := fun milliseconds => IO.sleep (min milliseconds (twoTo 32 - 1)).toUInt32 } }

end Payments.Machine

/-- Runs the program with the arguments of its call. -/
def main (arguments : List String) : IO UInt32 := do
  let exit ← Payments.Program.run (← Payments.Machine.host) arguments
  return exit.toUInt32
