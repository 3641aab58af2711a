import Payments.CommandStream
import Payments.Consumer
import Payments.Dotenv
import Payments.Gateway.Client
import Payments.Invocation
import Payments.Report

/-!
# Payments.Program -- a file of commands, carried out

The program reads its settings, opens a file of commands, carries them out one after another and
prints a report of the payments it then holds. A command that is refused is noted in the log, and
the next one is carried out. Refund requests count as delivered from one partition, with their lines
as offsets.

What the program needs of the machine it runs on is a `Host`, so the whole of it can be carried out
without one.
-/

namespace Payments

/-- What the program needs of the machine it runs on. -/
structure Host (m : Type → Type) where
  /-- The value of a variable of the environment. -/
  getVariable : String → m (Option String)
  readFile : String → m (Option (List UInt8))
  /-- Empties a file, or makes it, for writing. -/
  createFile : String → m (Option (Sink m))
  /-- Takes announcements that go to no file. -/
  errorSink : Sink m
  log : String → m Unit
  print : String → m Unit
  now : m Instant
  random : m Nat
  transport : Gateway.Transport m

/-! ## The log -/

/-- A line of the log. -/
inductive LogLine where
  | storeUnsupported
  | registrationRejected (line : Nat) (e : PaymentError)
  | refundUnacknowledged (line : Nat) (e : PaymentError)
  | malformedCommand (line : Nat) (e : PaymentError)
  | finished (published : Nat) (committed : Option Int)

/-- An offset as it is quoted in the log. -/
def quoteOffset : Option Int → String
  | none => "None"
  | some offset => s!"Some({offset})"

/-- The line as text. -/
def LogLine.text : LogLine → String
  | .storeUnsupported =>
    "Persistent storage requested via --db-path, but 'storage-rocksdb' feature is not enabled. " ++
      "Falling back to In-Memory storage."
  | .registrationRejected line e =>
    s!"payment verification rejected line={line} code=\"{e.code}\" error={e.message}"
  | .refundUnacknowledged line e =>
    s!"refund request left unacknowledged line={line} code=\"{e.code}\" error={e.message}"
  | .malformedCommand line e => s!"skipping malformed command line={line} error={e.message}"
  | .finished published committed =>
    s!"processing finished published={published} committed_offset={quoteOffset committed}"

namespace Program

/-- What the program holds while it runs. -/
structure Session where
  store : Store
  /-- The number of announcements that have been delivered. -/
  delivered : Nat
  committed : CommittedOffset

/-- A session in which nothing has happened. -/
def Session.start : Session :=
  ⟨∅, 0, .start⟩

variable {m : Type → Type} [Monad m]

/-- Answers the requests of the service. -/
def answer (host : Host m) (settings : Settings) (sink : Sink m) :
    (r : Request) → StateT Session m r.Answer
  | .now => host.now
  | .store r => do
    let now ← host.now
    let random ← host.random
    let session ← get
    let (result, store) := r.serve now (.ofRandom random) session.store
    set { session with store }
    return result
  | .lookup key => StateT.lift (Gateway.Client.lookup host.transport settings.gateway key)
  | .cancel key order => do
    let random ← host.random
    StateT.lift
      (Gateway.Client.cancel host.transport settings.gateway key (Text.uuid random) order)
  | .publish e => do
    let now ← host.now
    let random ← host.random
    let session ← get
    let envelope := Envelope.of settings.topics (Text.uuid random) now e
    let delivered ← StateT.lift (Relay.take sink session.delivered envelope)
    set { session with delivered }
    return .ok ()

/-- Carries out what stands on a line. The result is a calculation that overflowed, if one did. -/
def handle (host : Host m) (settings : Settings) (sink : Sink m) (item : StreamItem) :
    StateT Session m (Option Overflow) := do
  match item.command with
  | .error e =>
    host.log (LogLine.malformedCommand item.line e).text
    return none
  | .ok (.register r) =>
    match ← (Service.register r).run.run (answer host settings sink) with
    | .ok _ => return none
    | .error (.refused e) =>
      host.log (LogLine.registrationRejected item.line e).text
      return none
    | .error (.overflowed o) => return some o
  | .ok (.refund r) =>
    match ← (Delivery.handle ⟨0, item.line, r⟩).run.run (answer host settings sink) with
    | .ok (_, acknowledgement) =>
      modify fun s => { s with committed := s.committed.acknowledge acknowledgement }
      return none
    | .error (.refused e) =>
      host.log (LogLine.refundUnacknowledged item.line e).text
      return none
    | .error (.overflowed o) => return some o

/-- Carries out the lines of a file, up to one whose calculation overflows. -/
def handleAll (host : Host m) (settings : Settings) (sink : Sink m) :
    List StreamItem → StateT Session m (Option Overflow)
  | [] => return none
  | item :: rest => do
    match ← handle host settings sink item with
    | some o => return some o
    | none => handleAll host settings sink rest

/-- Ends a session: the log is closed and the report printed. The result is the exit code. -/
def finish (host : Host m) (sink : Sink m) (session : Session) : m Nat := do
  match ← Relay.finish sink session.delivered with
  | .error e =>
    host.log e.message
    return 1
  | .ok delivered =>
    host.log (LogLine.finished delivered session.committed.lastCommitted?).text
    host.print (Report.ofBatches [session.store.select .none])
    return 0

/-- Carries out the commands of a file that has been read. -/
def process (host : Host m) (settings : Settings) (sink : Sink m) (bytes : List UInt8) : m Nat := do
  let (overflow, session) ←
    (handleAll host settings sink (CommandStream.ofBytes bytes)).run .start
  match overflow with
  | some o =>
    host.log o.message
    return 101
  | none => finish host sink session

/-- The names under which settings are looked up. -/
def settingNames : List String :=
  ["TOSS_BASE_URL", "TOSS_SECRET_KEY", "PG_CONNECT_TIMEOUT_MS", "PG_READ_TIMEOUT_MS",
    "PG_MAX_ATTEMPTS", "PG_RETRY_BACKOFF_MS", "PG_MAX_RETRY_BACKOFF_MS", "TOPIC_PAYMENT_REFUNDED",
    "TOPIC_PAYMENT_REFUND_FAILED", "EVENT_SOURCE"]

/-- The variables that the file `.env` sets; none, if the file is not usable. -/
def fileVariables (host : Host m) : m (Option (List (String × String))) := do
  match (← host.readFile ".env").bind Text.ofUtf8? with
  | some text => Dotenv.load host.getVariable text
  | none => return some []

/-- Reads the settings from the environment and, where that is silent, from the variables of a file.
-/
def readSettings (host : Host m) (inFile : List (String × String)) :
    m (Except PaymentError Settings) := do
  let values ← settingNames.mapM fun name => do
    match ← host.getVariable name with
    | some value => return (name, some value)
    | none => return (name, inFile.lookup name)
  return Settings.ofLookup fun name => (values.lookup name).join

/-- Opens what receives announcements. -/
def openSink (host : Host m) : Option String → m (Option (Sink m))
  | none => return some host.errorSink
  | some path => host.createFile path

/-- Carries out a call with its settings. The result is the exit code. -/
def carryOut (host : Host m) (i : Invocation) (settings : Settings) : m Nat := do
  if i.dbPath.isSome then host.log LogLine.storeUnsupported.text
  match ← openSink host i.eventsOut with
  | none =>
    host.log "cannot create the events file"
    return 1
  | some sink =>
    match ← host.readFile (i.input.getD "") with
    | none =>
      host.log "cannot read the input file"
      return 1
    | some bytes => process host settings sink bytes

/-- Reads the settings and carries out a call. The result is the exit code. -/
def configure (host : Host m) (i : Invocation) : m Nat := do
  match ← fileVariables host with
  | none =>
    host.log "the file of variables holds a value that no variable can have"
    return 101
  | some inFile =>
    match ← readSettings host inFile with
    | .error e =>
      host.log e.message
      return 1
    | .ok settings => carryOut host i settings

/-- Runs the program with the arguments of its call. The result is the exit code. -/
def run (host : Host m) (arguments : List String) : m Nat := do
  match Invocation.ofArguments arguments with
  | .ok i => configure host i
  | .error objection =>
    if objection.exitCode = 0 then host.print (objection.message ++ "\n")
    else host.log objection.message
    return objection.exitCode

end Program

end Payments
