/-!
# Payments.Text.Blank -- blank characters and trimmed text

A character is *blank* when it has the Unicode property `White_Space`. Mandatory text fields are
refused when every character is blank; what is kept of an accepted field is the text as it was
given, so `isBlankText` only looks. `trim` drops blank characters at both ends and is used where
surrounding blanks carry no meaning, as in settings and currency names.
-/

namespace Payments.Text

/-- The twenty-five characters with the Unicode property `White_Space`. -/
def isBlank (c : Char) : Bool :=
  let n := c.toNat
  (9 ≤ n && n ≤ 13) || n == 0x20 || n == 0x85 || n == 0xA0 || n == 0x1680 ||
    (0x2000 ≤ n && n ≤ 0x200A) || n == 0x2028 || n == 0x2029 || n == 0x202F || n == 0x205F ||
    n == 0x3000

/-- The text without the blank characters it starts with. -/
def trimStart (cs : List Char) : List Char :=
  cs.dropWhile isBlank

/-- The text without the blank characters it ends with. -/
def trimEnd (cs : List Char) : List Char :=
  (cs.reverse.dropWhile isBlank).reverse

/-- The text without blank characters at either end. -/
def trim (s : String) : String :=
  String.ofList (trimEnd (trimStart s.toList))

/-- Whether the text is empty or holds blank characters only. -/
def isBlankText (s : String) : Bool :=
  s.toList.all isBlank

end Payments.Text
