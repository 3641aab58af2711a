import Payments.Program
import Payments.Rehearsal.Surroundings
import Payments.Text.Parts

/-!
# Payments.Rehearsal.Workspace -- the program in a directory of its own

A workspace is a host for one run of the program: a directory without subdirectories, an
environment, and a gateway with a page for each payment it knows. It keeps what the program prints,
logs and writes. A path may lead out of the directory and up, where there are no files at first, or
name one of two files that hold nothing.
-/

namespace Payments.Rehearsal

open Gateway

/-- A host for one run of the program. -/
structure Workspace where
  files : Table String (List UInt8)
  environment : List (String × String)
  /-- Where the gateway listens. -/
  origin : String
  /-- The gateway's pages, by their paths. -/
  pages : List (String × HttpResponse)
  readings : Nat
  /-- The next random number. -/
  random : Nat
  logged : List String
  printed : String

namespace Workspace

/-- The file that holds nothing and forgets what is written to it. -/
def nullFile : String := "/dev/null"

/-- The file that can be opened, but takes nothing. -/
def fullFile : String := "/dev/full"

/-- The longest name that a file can have, in bytes. -/
def maxNameBytes : Nat := 255

/-- The first length in bytes that no path can have. -/
def pathBytes : Nat := 4096

/-- Follows the names of a relative path from the directory that lies `above` levels over the
workspace: the file they lead to, by its plainest path. Since there are no directories to go down
into, a name stands for a file and has to be the last one. -/
def follow? (above : Nat) : List (List Char) → Option String
  | [] => none
  | [name] =>
    if name.isEmpty || name = ['.'] || name = ['.', '.'] ||
        maxNameBytes < (String.ofList name).utf8ByteSize then none
    else some (String.join (List.replicate above "../") ++ String.ofList name)
  | name :: names =>
    if name.isEmpty || name = ['.'] then follow? above names
    else if name = ['.', '.'] then follow? (above + 1) names
    else none

/-- The file that a path leads to, by its plainest path. -/
def resolve? (path : String) : Option String :=
  if pathBytes ≤ path.utf8ByteSize || path.toList.contains '\x00' then none
  else
    match path.toList with
    | '/' :: cs =>
      let parts := Text.parts (· = '/') cs
      let names := parts.filter fun name => !name.isEmpty && name != ['.']
      let plain := String.ofList ('/' :: Text.join '/' names)
      if (plain = nullFile || plain = fullFile) && parts.getLast? = names.getLast? then some plain
      else none
    | cs => follow? 0 (Text.parts (· = '/') cs)

/-- What a file holds. -/
def content? (w : Workspace) (file : String) : Option (List UInt8) :=
  if file = nullFile then some [] else w.files.get? file

/-- Lets a file hold other bytes. -/
def fill (w : Workspace) (file : String) (bytes : List UInt8) : Workspace :=
  if file = nullFile || file = fullFile then w else { w with files := w.files.put file bytes }

/-- Writes at the end of a file. -/
def sinkTo (file : String) : Sink (StateM Workspace) where
  write line := do
    if file = fullFile then return .error "No space left on device (os error 28)"
    else
      modify fun w => w.fill file ((w.content? file).getD [] ++ Text.utf8 line)
      return .ok ()
  flush := return .ok ()

/-- Sends a request to the gateway. -/
def exchange (r : HttpRequest) : StateM Workspace (Except TransportError HttpResponse) := do
  let w ← get
  if r.url.origin ≠ w.origin then return .error (.unanswered r.url)
  else
    match r.method, w.pages.lookup r.url.target with
    | .get, some response =>
      if response.isFinal then return .ok response else return .error (.unanswered r.url)
    | _, _ => return .ok ⟨404, []⟩

/-- The workspace as a host. -/
def host : Host (StateM Workspace) where
  getVariable name := return (← get).environment.lookup name
  readFile path := return (resolve? path).bind (← get).content?
  createFile path := do
    match resolve? path with
    | none => return none
    | some file =>
      modify fun w => w.fill file []
      return some (sinkTo file)
  errorSink :=
    { write := fun line => do
        modify fun w => { w with logged := w.logged ++ [line] }
        return .ok ()
      flush := return .ok () }
  log line := modify fun w => { w with logged := w.logged ++ [line] }
  print text := modify fun w => { w with printed := w.printed ++ text }
  now := do
    let w ← get
    set { w with readings := w.readings + 1 }
    return instantAt w.readings
  random := do
    let w ← get
    set { w with random := w.random + 1 }
    return w.random
  transport :=
    { exchange
      pause := fun _ => return () }

/-- Runs the program: the exit code, and the workspace after it. -/
def run (w : Workspace) (arguments : List String) : Nat × Workspace :=
  (Program.run host arguments).run w

end Workspace

end Payments.Rehearsal
