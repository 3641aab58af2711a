import Payments.Gateway.Exchange
import Payments.Text.Blank
import Payments.Text.Lines

/-!
# Payments.Gateway.Wire -- requests and responses as bytes

A request is written, and a response read, as version 1.1 of the protocol has them: lines of text,
an empty line, and a body. The server is told to close the connection after its response, so a
response is all that it sends. Its headers say how much of that is the body: a number of bytes, or a
row of chunks with their lengths in front; if they say neither, it is the rest.
-/

namespace Payments.Gateway

/-! ## Requests -/

/-- The host of an address, with the port unless that is the scheme's own. -/
def hostHeader (u : Url) : String :=
  u.host.getD "" ++ (u.port.map fun n => s!":{n}").getD ""

/-- The header that says how long the body is. -/
def lengthHeader (body : String) : String × String :=
  ("Content-Length", toString body.utf8ByteSize)

/-- The lines of a request above its body. -/
def HttpRequest.head (r : HttpRequest) : List String :=
  let headers := [("Host", hostHeader r.url), ("Accept", "*/*"), ("Connection", "close")] ++
    r.headers ++ (r.body.map lengthHeader).toList
  s!"{r.method.name} {r.url.target} HTTP/1.1" ::
    headers.map fun (name, value) => name ++ ": " ++ value

/-- A request as bytes. -/
def HttpRequest.bytes (r : HttpRequest) : List UInt8 :=
  Text.utf8 (String.join (r.head.map (· ++ "\r\n")) ++ "\r\n" ++ r.body.getD "")

/-! ## Responses -/

/-- What stands above the first empty line, and what stands below. -/
def splitHead : List UInt8 → Option (List UInt8 × List UInt8)
  | 13 :: 10 :: 13 :: 10 :: below => some ([], below)
  | b :: bytes => (splitHead bytes).map fun (above, below) => (b :: above, below)
  | [] => none

/-- The status in the first line of a response: the second word, a number. -/
def statusOf (line : String) : Option Nat :=
  ((line.splitOn " ")[1]?).bind String.toNat?

/-- A header: a name in lower case, and a value. -/
def headerOf (line : String) : String × String :=
  let cs := line.toList
  let name := String.ofList ((cs.takeWhile (· ≠ ':')).map Char.toLower)
  (name, Text.trim (String.ofList ((cs.dropWhile (· ≠ ':')).drop 1)))

/-- Reads chunks up to an empty one. Every chunk takes up bytes, so `fuel` beyond their number is
enough. -/
def readChunks : Nat → List UInt8 → Option (List UInt8)
  | 0, _ => none
  | fuel + 1, bytes => do
    let line := bytes.takeWhile (· ≠ 13)
    let size := Text.hexNumber ((← Text.ofUtf8? line).toList.takeWhile (· ≠ ';'))
    let rest := (bytes.drop line.length).drop 2
    if size = 0 then some []
    else if rest.length < size then none
    else
      let more ← readChunks fuel ((rest.drop size).drop 2)
      some (rest.take size ++ more)

/-- The body that the headers point out in the bytes below them. -/
def bodyOf (headers : List (String × String)) (below : List UInt8) : Option (List UInt8) :=
  if (headers.lookup "transfer-encoding").isSome then readChunks below.length below
  else
    match headers.lookup "content-length" with
    | some length => do
      let n ← length.toNat?
      if below.length < n then none else some (below.take n)
    | none => some below

/-- The response that a server sent; none if it is cut off or is no response. -/
def HttpResponse.ofBytes? (bytes : List UInt8) : Option HttpResponse := do
  let (above, below) ← splitHead bytes
  let lines ← (Text.lines above).mapM Text.ofUtf8?
  let status ← statusOf (lines.headD "")
  let body ← bodyOf ((lines.drop 1).map headerOf) below
  some ⟨status, body⟩

end Payments.Gateway
