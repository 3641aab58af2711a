import Payments.Text.Percent

/-!
# Payments.Url.Encoding -- the characters that are encoded in an address

Each part of an address has a set of characters that cannot stand there as they are, since they
would end the part, or be mistaken or lost. They are percent-encoded. The sets grow from the
fragment to the path to the names of users.
-/

namespace Payments.Url

/-- Controls and everything outside ASCII. -/
def inControlSet (c : Char) : Bool :=
  c.toNat < 0x20 || 0x7E < c.toNat

/-- The characters encoded in a fragment. -/
def inFragmentSet (c : Char) : Bool :=
  inControlSet c || c = ' ' || c = '"' || c = '<' || c = '>' || c.toNat = 0x60

/-- The characters encoded in a path. -/
def inPathSet (c : Char) : Bool :=
  inFragmentSet c || c = '#' || c = '?' || c = '\x7b' || c = '\x7d'

/-- The characters encoded in the name and the password of a user. -/
def inUserSet (c : Char) : Bool :=
  inPathSet c || "/:;=@[\\]^|".toList.contains c

/-- The characters encoded in a query. -/
def inQuerySet (c : Char) : Bool :=
  inControlSet c || c = ' ' || c = '"' || c = '#' || c = '<' || c = '>'

/-- The characters encoded in a query under a special scheme. -/
def inSpecialQuerySet (c : Char) : Bool :=
  inQuerySet c || c = '\x27'

/-- Text with the characters of a set encoded. -/
def encoded (set : Char → Bool) (cs : List Char) : String :=
  String.ofList (Text.percentEncode set cs)

end Payments.Url
