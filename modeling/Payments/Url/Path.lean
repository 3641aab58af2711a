import Payments.Text.Parts
import Payments.Url.Encoding

/-!
# Payments.Url.Path -- the path of an address

A path is a list of segments with a slash in front of each. The segments `.` and `..` are not kept
but carried out: the first stands for the place it is in, the second for the place above. Drives, a
letter with a colon or a bar behind it, are not left this way. In the address of a file a drive that
comes first is written with a colon, and slashes at the beginning count once.
-/

namespace Payments.Url.Path

/-- Whether a segment stands for the place it is in. -/
def isSingleDot (segment : List Char) : Bool :=
  let s := segment.map Char.toLower
  s = ['.'] || s = ['%', '2', 'e']

/-- Whether a segment stands for the place above. -/
def isDoubleDot (segment : List Char) : Bool :=
  let s := segment.map Char.toLower
  s = ['.', '.'] || s = ['.', '%', '2', 'e'] || s = ['%', '2', 'e', '.'] ||
    s = ['%', '2', 'e', '%', '2', 'e']

/-- Whether a segment is a drive, or begins with one and a backslash. -/
def beginsWithDrive : List Char → Bool
  | letter :: sign :: rest =>
    letter.isAlpha && (sign = ':' || sign = '|') && (rest.isEmpty || rest.head? = some '\\')
  | _ => false

/-- Whether a segment is a drive. -/
def isDrive (segment : List Char) : Bool :=
  segment.length = 2 && beginsWithDrive segment

/-- Goes to the place above. Segments are given backwards here and in what follows. -/
def up : List (List Char) → List (List Char)
  | [] => []
  | segment :: kept => if beginsWithDrive segment then segment :: kept else kept

/-- Carries out the segments of a path; `keep` adds one to those kept so far. -/
def walk (keep : List Char → List (List Char) → List (List Char)) :
    List (List Char) → List (List Char) → List (List Char)
  | kept, [] => kept.reverse
  | kept, [segment] =>
    if isDoubleDot segment then ([] :: up kept).reverse
    else if isSingleDot segment then ([] :: kept).reverse
    else (keep segment kept).reverse
  | kept, segment :: rest =>
    if isDoubleDot segment then walk keep (up kept) rest
    else if isSingleDot segment then walk keep kept rest
    else walk keep (keep segment kept) rest

/-- Adds a segment in the address of a file. -/
def keepInFile (segment : List Char) (kept : List (List Char)) : List (List Char) :=
  if kept.isEmpty && isDrive segment then [segment.take 1 ++ [':']] else segment :: kept

/-- The segments of what follows the first slash of a path. -/
def segments (isSlash : Char → Bool) (cs : List Char) : List (List Char) :=
  walk List.cons [] (Text.parts isSlash (Text.percentEncode inPathSet cs))

/-- The same in the address of a file. -/
def fileSegments (isSlash : Char → Bool) (cs : List Char) : List (List Char) :=
  walk keepInFile [] (Text.parts isSlash (Text.percentEncode inPathSet cs))

/-- The path that the segments make. -/
def text (segments : List (List Char)) : String :=
  String.ofList (segments.flatMap fun s => '/' :: s)

/-- The same in the address of a file. -/
def fileText (segments : List (List Char)) : String :=
  "/" ++ String.ofList ((segments.flatMap fun s => '/' :: s).dropWhile (· = '/'))

end Payments.Url.Path
