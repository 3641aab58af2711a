/-!
# Payments.Invocation -- what the program is called with

The program takes the file with the commands, and two options with a value each. An option and its
value are two arguments or, with an equals sign, one. Arguments are taken from left to right, and
the first one that does not fit decides.
-/

namespace Payments

/-- What the program is called with. -/
structure Invocation where
  /-- The file with the commands. -/
  input : Option String
  /-- The place of a persistent store. -/
  dbPath : Option String
  /-- The file that receives the announcements. -/
  eventsOut : Option String
deriving DecidableEq, Repr

namespace Invocation

/-- Why a call is not carried out. -/
inductive Objection where
  | helpWanted
  | versionWanted
  | unknownOption (argument : String)
  | missingValue (option : String)
  | repeated (option : String)
  | unexpected (argument : String)
  | missingInput
deriving DecidableEq, Repr

/-- How the program is called. -/
def usage : String :=
  "Usage: pg-settle [OPTIONS] <INPUT>"

/-- What the arguments and the options are for. -/
def help : String :=
  "\n".intercalate [
    usage,
    "",
    "Arguments:",
    "  <INPUT>  Input file of JSON-lines commands (verify_payment, refund_requested)",
    "",
    "Options:",
    "      --db-path <DB_PATH>        " ++
      "Path to persistent database (optional). If provided, uses RocksDB",
    "      --events-out <EVENTS_OUT>  " ++
      "File receiving published events as JSON lines. Defaults to stderr",
    "  -h, --help                     Print help",
    "  -V, --version                  Print version"]

/-- The objection in words. -/
def Objection.message : Objection → String
  | .helpWanted => help
  | .versionWanted => "pg-settle 0.1.0"
  | .unknownOption argument => s!"error: unexpected argument `{argument}` found\n\n{usage}"
  | .missingValue option => s!"error: a value is required for `{option}` but none was supplied"
  | .repeated option => s!"error: the argument `{option}` cannot be used multiple times"
  | .unexpected argument => s!"error: unexpected argument `{argument}` found\n\n{usage}"
  | .missingInput =>
    s!"error: the following required arguments were not provided: <INPUT>\n\n{usage}"

/-- The exit code of a call that is not carried out. -/
def Objection.exitCode : Objection → Nat
  | .helpWanted | .versionWanted => 0
  | _ => 2

/-- An option that has a value. -/
inductive ValueOption where
  | dbPath
  | eventsOut
deriving DecidableEq, Repr

/-- An option as it is spelled. -/
def ValueOption.spelling : ValueOption → String
  | .dbPath => "--db-path"
  | .eventsOut => "--events-out"

/-- Enters the value of an option, which must not be given twice or be empty. -/
def setOption (i : Invocation) (o : ValueOption) (value : String) : Except Objection Invocation :=
  if value.isEmpty then .error (.missingValue o.spelling)
  else
    match o with
    | .dbPath => if i.dbPath.isSome then .error (.repeated o.spelling)
      else .ok { i with dbPath := some value }
    | .eventsOut => if i.eventsOut.isSome then .error (.repeated o.spelling)
      else .ok { i with eventsOut := some value }

/-- Enters an argument that belongs to no option. -/
def setInput (i : Invocation) (argument : String) : Except Objection Invocation :=
  if i.input.isSome then .error (.unexpected argument)
  else if argument.isEmpty then .error (.missingValue "<INPUT>")
  else .ok { i with input := some argument }

/-- What an argument is by its spelling. -/
inductive Argument where
  /-- The end of the options. -/
  | separator
  | option (o : ValueOption) (value : Option String)
  | help
  | version
  | unknown
  /-- No option. -/
  | plain
deriving DecidableEq, Repr

/-- What the text behind two dashes says, an equals sign and a value aside. -/
def Argument.ofName (name : List Char) (value : Option String) : Argument :=
  if name = "db-path".toList then .option .dbPath value
  else if name = "events-out".toList then .option .eventsOut value
  else if name = "help".toList && value.isNone then .help
  else if name = "version".toList && value.isNone then .version
  else .unknown

/-- What an argument is. -/
def Argument.of (argument : String) : Argument :=
  match argument.toList with
  | ['-', '-'] => .separator
  | '-' :: '-' :: rest =>
    match rest.dropWhile (· ≠ '=') with
    | _ :: value => ofName (rest.takeWhile (· ≠ '=')) (some (String.ofList value))
    | [] => ofName rest none
  | ['-'] => .plain
  | '-' :: 'h' :: _ => .help
  | '-' :: 'V' :: _ => .version
  | '-' :: _ => .unknown
  | _ => .plain

/-- Takes the arguments behind the end of the options. -/
def takePlain : Invocation → List String → Except Objection Invocation
  | i, [] => .ok i
  | i, argument :: rest => do
    let i ← i.setInput argument
    takePlain i rest

/-- Takes the arguments from left to right. -/
def take : Invocation → List String → Except Objection Invocation
  | i, [] => .ok i
  | i, argument :: rest =>
    match Argument.of argument, rest with
    | .separator, rest => takePlain i rest
    | .option o (some value), rest => do
      let i ← i.setOption o value
      take i rest
    | .option o none, value :: rest =>
      match Argument.of value with
      | .plain => do
        let i ← i.setOption o value
        take i rest
      | _ => .error (.missingValue o.spelling)
    | .option o none, [] => .error (.missingValue o.spelling)
    | .help, _ => .error .helpWanted
    | .version, _ => .error .versionWanted
    | .unknown, _ => .error (.unknownOption argument)
    | .plain, rest => do
      let i ← i.setInput argument
      take i rest

/-- Reads the arguments of a call. -/
def ofArguments (arguments : List String) : Except Objection Invocation := do
  let i ← take ⟨none, none, none⟩ arguments
  if i.input.isSome then .ok i else .error .missingInput

end Invocation

end Payments
