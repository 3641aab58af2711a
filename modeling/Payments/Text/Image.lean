import Payments.Text.Span

/-!
# Payments.Text.Image -- what stands for a character, by tables

Where a text is brought into a plainer form, single characters give way to others. A table of such
images holds words of three kinds.

* `A0=20,,20+308` gives the images of the code points from `A0` on, one by one. Code points joined
  by `+` are one image, and where nothing stands there is none.
* `41-5A:61` gives all code points from `41` to `5A` images at the same distances, beginning with
  `61`.
* `100-12E/101` does this for every second code point from `100` to `12E`.
-/

namespace Payments.Text

/-- An image of the characters of a span. -/
structure Image where
  span : Span
  /-- The characters with an image are this far from one another. -/
  step : Nat
  /-- The image of the first character. The code points of the other images lie as much further on
  as the character does. -/
  codePoints : List Nat
deriving DecidableEq, Repr

namespace Image

/-- The image of a character, if this is one of it. -/
def of? (i : Image) (c : Char) : Option (List Char) :=
  let distance := c.toNat - i.span.first
  if i.span.holds c && distance % i.step = 0 then
    some (i.codePoints.map fun n => Char.ofNat (n + distance))
  else none

/-- The images of the code points from `first` on; an empty text is none. -/
def inTurn (first : Nat) (texts : List (List Char)) : List Image :=
  texts.zipIdx.filterMap fun (text, i) =>
    if text.isEmpty then none
    else some ⟨⟨first + i, first + i⟩, 1, (parts (· = '+') text).map hexNumber⟩

/-- The images that a word of a table gives. -/
def ofWord (word : List Char) : List Image :=
  let isSpanChar (c : Char) : Bool := (hexValue? c).isSome || c = '-'
  let span := Span.ofWord (word.takeWhile isSpanChar)
  match word.dropWhile isSpanChar with
  | '=' :: rest => inTurn span.first (parts (· = ',') rest)
  | ':' :: rest => [⟨span, 1, [hexNumber rest]⟩]
  | '/' :: rest => [⟨span, 2, [hexNumber rest]⟩]
  | _ => []

end Image

/-- The images that a table lists. -/
def images (lines : List String) : List Image :=
  (words lines).flatMap Image.ofWord

/-- What stands for a character, if something does. -/
def imageOf? (images : List Image) (c : Char) : Option (List Char) :=
  images.findSome? (·.of? c)

end Payments.Text
