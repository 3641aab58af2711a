import Payments.HostName.Admission
import Payments.HostName.Direction
import Payments.HostName.Joining
import Payments.HostName.Punycode
import Payments.Text.Mark

/-!
# Payments.HostName -- host names in all scripts

A host name is a list of labels with points between them. It is looked up in ASCII letters, but
people write it in their own script. `toAscii?` brings a host name into the form in which it is
looked up: characters that mean the same are made the same, and a label that still holds characters
outside ASCII is encoded behind `xn--`.

A label that comes with `xn--` has to be what that encoding makes of a label that needs no change.
Labels are checked as they are read by people: none begins with a mark, joiners stand only where
they are seen, and all can be shown in one direction.
-/

namespace Payments.HostName

/-- Whether a character is outside ASCII. -/
def isForeign (c : Char) : Bool :=
  Punycode.firstCodePoint ≤ c.toNat

/-- What is in front of an encoded label. -/
def encodedMark : List Char := ['x', 'n', '-', '-']

/-- Whether a label is an encoded one. -/
def isEncoded (label : List Char) : Bool :=
  encodedMark.isPrefixOf (label.map Char.toLower)

/-- The most characters that a label may have to be encoded. -/
def maxEncodable : Nat := 1000

/-- The most characters that an encoded label may have. -/
def maxEncoded : Nat := 2000

/-- A label as it is looked up and as it is read. -/
structure Label where
  ascii : List Char
  shown : List Char
deriving DecidableEq, Repr

namespace Label

/-- An encoded label; what it stands for has to need no change, and encoding. -/
def ofEncoded? (label : List Char) : Option Label := do
  let cs := label.drop encodedMark.length
  if cs.any isForeign || cs.isEmpty || cs.getLast? = some '-' || maxEncoded < cs.length then none
  else
    let shown ← Punycode.decode? cs
    if folded? shown = some shown then some ⟨label, shown⟩ else none

/-- A label in the characters that are kept. -/
def ofFolded? (label : List Char) : Option Label :=
  if isEncoded label then ofEncoded? label
  else if !label.any isForeign then some ⟨label, label⟩
  else if maxEncodable < label.length then none
  else some ⟨encodedMark ++ Punycode.encode label, label⟩

/-- Whether what is read of a label makes sense; a label in ASCII always does. -/
def isSound (l : Label) : Bool :=
  !l.shown.any isForeign || (!(l.shown.head?.any Text.isMark) && joinersFit [] l.shown)

end Label

/-- Whether a host name is known to need no change but lower case. -/
def isPlain (cs : List Char) : Bool :=
  !cs.any isForeign && !(Text.parts (· = '.') cs).any isEncoded

/-- A host name as it is looked up. -/
def toAscii? (cs : List Char) : Option (List Char) := do
  if isPlain cs then return cs.map Char.toLower
  else
    let labels ← (Text.parts (· = '.') (← folded? cs)).mapM Label.ofFolded?
    if labels.all Label.isSound && directionsFit (labels.map Label.shown) then
      return Text.join '.' (labels.map Label.ascii)
    else none

end Payments.HostName
