import Payments.HostName
import Payments.Url.Encoding
import Payments.Url.Ipv4
import Payments.Url.Ipv6

/-!
# Payments.Url.Host -- the host of an address

A host is a numeric address in brackets or a name. Under the special schemes it is brought into a
canonical form: a name is decoded and put in ASCII letters, and one that ends with a number is a
numeric address. Under other schemes a name may be any text without forbidden characters.
-/

namespace Payments.Url.Host

/-- The characters that no name holds. -/
def isForbidden (c : Char) : Bool :=
  inControlSet c || " #/:<>?@[\\]^|%".toList.contains c

/-- A numeric address in brackets. -/
def bracketed? (cs : List Char) : Option String := do
  if cs.head? = some '[' && cs.getLast? = some ']' then
    return "[" ++ Ipv6.text (← Ipv6.read? (cs.drop 1).dropLast) ++ "]"
  else none

/-- The host of an address of a special scheme in canonical form. -/
def special? (cs : List Char) : Option String := do
  if cs.head? = some '[' then bracketed? cs
  else
    let decoded ← Text.ofUtf8? (Text.percentDecode cs)
    let name ← HostName.toAscii? decoded.toList
    if name.isEmpty || name.any isForbidden then none
    else if Ipv4.isNumeric name then Ipv4.text <$> Ipv4.address? name
    else some (String.ofList name)

/-- The host of an address of another scheme, which may be empty. -/
def other? (cs : List Char) : Option String :=
  if cs.head? = some '[' then bracketed? cs
  else if cs.any fun c => c != '%' && (!inControlSet c || c.toNat = 0) && isForbidden c then none
  else some (encoded inControlSet cs)

/-- The host, and the colon and the port behind it; colons between brackets are part of the host. -/
def cutPort (isInBrackets : Bool) : List Char → List Char × List Char
  | [] => ([], [])
  | c :: cs =>
    if c = ':' && !isInBrackets then ([], c :: cs)
    else
      let (host, port) := cutPort (c = '[' || (isInBrackets && c != ']')) cs
      (c :: host, port)

end Payments.Url.Host
