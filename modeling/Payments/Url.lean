import Payments.Url.Host
import Payments.Url.Path

/-!
# Payments.Url -- addresses of resources

An address is read as browsers read it. Control characters around it and line ends within it are
dropped; the scheme decides how the rest is taken apart. For the special schemes a backslash counts
as a slash, the host is put in a canonical form, and a port that is the scheme's own is dropped. The
segments `.` and `..` of the path are carried out. Characters that may not stand in a part are
percent-encoded there.

What follows a question mark is the query, and what follows a number sign the fragment. Nothing in
an address tells whether such a character, or a slash, was meant as part of a name, so a name that
is to be one segment of a path has to be encoded before it is put there.
-/

namespace Payments

/-- An address. -/
structure Url where
  scheme : String
  /-- The user who asks; empty, if the address does not say. -/
  user : String
  password : Option String
  /-- The host, as far as the address has one. It may be empty. -/
  host : Option String
  port : Option Nat
  /-- The path with its slashes; for an address without host it may be any text. -/
  path : String
  query : Option String
  fragment : Option String
deriving DecidableEq, Repr

namespace Url

/-! ## Schemes -/

/-- The port of a scheme that always names a host. -/
def ownPorts : List (String × Nat) :=
  [("http", 80), ("https", 443), ("ws", 80), ("wss", 443), ("ftp", 21)]

/-- Whether addresses of the scheme always name a host. -/
def namesHost (scheme : String) : Bool :=
  (ownPorts.lookup scheme).isSome

/-- The scheme of files. -/
def fileScheme : String := "file"

/-- Takes a scheme and its colon off the front. -/
def scheme? (cs : List Char) : Option (String × List Char) :=
  let isSchemeChar (c : Char) := c.isAlphanum || c = '+' || c = '-' || c = '.'
  match cs with
  | c :: _ =>
    if !c.isAlpha then none
    else
      match cs.dropWhile isSchemeChar with
      | ':' :: rest => some (String.ofList ((cs.takeWhile isSchemeChar).map Char.toLower), rest)
      | _ => none
  | [] => none

/-- Whether a character separates the segments of a path. -/
def isSlash (isSpecial : Bool) (c : Char) : Bool :=
  c = '/' || (isSpecial && c = '\\')

/-- Whether a character ends what is in front of the path. -/
def endsAuthority (isSpecial : Bool) (c : Char) : Bool :=
  isSlash isSpecial c || c = '?' || c = '#'

/-! ## Parts -/

/-- The path, the query and the fragment of what follows the host. -/
def cutTail (cs : List Char) : List Char × Option (List Char) × Option (List Char) :=
  let front := cs.takeWhile (· ≠ '#')
  let fragment := match cs.dropWhile (· ≠ '#') with
    | _ :: rest => some rest
    | [] => none
  let query := match front.dropWhile (· ≠ '?') with
    | _ :: rest => some rest
    | [] => none
  (front.takeWhile (· ≠ '?'), query, fragment)

/-- An address with a path, a query and a fragment. -/
def withTail (u : Url) (isSpecial : Bool) (path : String)
    (query fragment : Option (List Char)) : Url :=
  { u with
    path
    query := query.map (encoded (if isSpecial then inSpecialQuerySet else inQuerySet))
    fragment := fragment.map (encoded inFragmentSet) }

/-- The address of a host that says no more. -/
def ofHost (scheme : String) (host : Option String) : Url :=
  { scheme, user := "", password := none, host, port := none, path := "", query := none,
    fragment := none }

/-- The user, the password and what is behind the last at sign. -/
def cutUser (authority : List Char) : String × Option String × List Char :=
  let back := (authority.reverse.takeWhile (· ≠ '@')).reverse
  let user := (authority.take (authority.length - back.length)).dropLast
  let password := (user.dropWhile (· ≠ ':')).drop 1
  (encoded inUserSet (user.takeWhile (· ≠ ':')),
    if password.isEmpty then none else some (encoded inUserSet password), back)

/-- The port behind a host, if it is not the scheme's own, and what follows its digits. -/
def port? (scheme : String) (cs : List Char) : Option (Option Nat × List Char) :=
  let digits := (cs.drop 1).takeWhile Char.isDigit
  let rest := (cs.drop 1).dropWhile Char.isDigit
  let n := Nat.ofDigitChars 10 digits 0
  if 65535 < n || (rest.head?.any (· ≠ '\\')) then none
  else if digits.isEmpty || ownPorts.lookup scheme = some n then some (none, rest)
  else some (some n, rest)

/-! ## Reading -/

/-- Reads what follows the scheme and the slashes of an address with a host. The host of a special
scheme is never empty; that of another may be, if nothing else stands beside it. -/
def withHost? (scheme : String) (isSpecial : Bool) (cs : List Char) : Option Url := do
  let authority := cs.takeWhile (!endsAuthority isSpecial ·)
  let rest := cs.dropWhile (!endsAuthority isSpecial ·)
  let (user, password, hostAndPort) := cutUser authority
  let (hostChars, portChars) := Host.cutPort false hostAndPort
  let host ← if isSpecial then Host.special? hostChars else Host.other? hostChars
  let (port, behindPort) ← port? scheme portChars
  let isAlone := portChars.isEmpty && user.isEmpty && password.isNone &&
    !(authority = ['@'] && !rest.isEmpty)
  if host.isEmpty && !isAlone then none
  else
    let (front, query, fragment) := cutTail (behindPort ++ rest)
    let path :=
      match front with
      | [] => if isSpecial then "/" else ""
      | c :: cs =>
        Path.text (Path.segments (isSlash isSpecial) (if isSlash isSpecial c then cs else front))
    some ({ ofHost scheme (some host) with user, password, port }.withTail isSpecial path query
      fragment)

/-- Reads what follows the scheme of an address without a host. -/
def withoutHost (scheme : String) (cs : List Char) : Url :=
  let (front, query, fragment) := cutTail cs
  let path :=
    match front with
    | '/' :: rest => Path.text (Path.segments (isSlash false) rest)
    | _ => encoded inControlSet front
  (ofHost scheme none).withTail false path query fragment

/-- The host of a file; the machine itself needs no name. -/
def fileHost? (cs : List Char) : Option String := do
  if cs.isEmpty then some ""
  else
    let host ← Host.special? cs
    return if host = "localhost" then "" else host

/-- The host of a file, and the path without its first slash, of what follows two slashes. What
would be the host may be a drive. Without a host the path keeps its slash. -/
def fileAuthority? (cs : List Char) : Option (String × List Char) := do
  let hostChars := cs.takeWhile (!endsAuthority true ·)
  if Path.isDrive hostChars then some ("", cs)
  else
    let host ← fileHost? hostChars
    let rest := cs.dropWhile (!endsAuthority true ·)
    if !host.isEmpty && rest.head?.any (isSlash true) then some (host, rest.drop 1)
    else some (host, rest)

/-- Reads what follows the scheme of the address of a file. Where the path begins with a drive there
is no host. -/
def file? (cs : List Char) : Option Url := do
  let (host, cs) ←
    match ((cs.takeWhile (isSlash true)).take 2).length with
    | 0 => some ("", cs)
    | 1 => some ("", cs.drop 1)
    | _ => fileAuthority? (cs.drop 2)
  let (front, query, fragment) := cutTail cs
  let segments := Path.fileSegments (isSlash true) front
  let host := if segments.head?.any Path.isDrive then "" else host
  return (ofHost fileScheme (some host)).withTail true (Path.fileText segments) query fragment

/-- The characters of an address that count. -/
def significant (s : String) : List Char :=
  let isEdge (c : Char) := decide (c.toNat ≤ 0x20)
  let cs := ((s.toList.dropWhile isEdge).reverse.dropWhile isEdge).reverse
  cs.filter fun c => c != '\t' && c != '\n' && c != '\r'

/-- Reads an absolute address. -/
def parse? (s : String) : Option Url := do
  let (scheme, rest) ← scheme? (significant s)
  if scheme = fileScheme then file? rest
  else if namesHost scheme then withHost? scheme true (rest.dropWhile (isSlash true))
  else
    match rest with
    | '/' :: '/' :: rest => withHost? scheme false rest
    | _ => some (withoutHost scheme rest)

/-! ## Writing -/

/-- The path and the query, as a request names them. -/
def target (u : Url) : String :=
  u.path ++ (u.query.map ("?" ++ ·)).getD ""

/-- The user and the password with an at sign behind them. -/
def userText (u : Url) : String :=
  if u.user.isEmpty && u.password.isNone then ""
  else u.user ++ (u.password.map (":" ++ ·)).getD "" ++ "@"

/-- The host and the port. -/
def hostText (u : Url) : String :=
  u.host.getD "" ++ (u.port.map fun n => ":" ++ toString n).getD ""

/-- The scheme, the host and the port. -/
def origin (u : Url) : String :=
  u.scheme ++ "://" ++ u.hostText

/-- What is in front of the path. Without a host, a path that begins with two slashes has a segment
put in front of it, so that it is not taken for a host. -/
def frontText (u : Url) : String :=
  u.scheme ++ ":" ++
    if u.host.isSome then "//" ++ u.userText ++ u.hostText
    else if "//".toList.isPrefixOf u.path.toList then "/."
    else ""

/-- The address as text. -/
def text (u : Url) : String :=
  u.frontText ++ u.target ++ (u.fragment.map ("#" ++ ·)).getD ""

end Url

end Payments
