import Payments.Text.Alphanumeric
import Payments.Text.Blank

/-!
# Payments.Dotenv -- variables kept in a file

A file of variables has a statement on each line, `NAME=value`, perhaps with `export` in front. A
statement goes on over the end of a line while a quote is open. Between single quotes every
character stands for itself. Elsewhere a backslash takes its meaning from some characters, and
`$NAME` or `$\x7bNAME\x7d` stands for the value of a variable. A number sign that begins a line, or
that follows a blank, begins a comment.

The first statement that cannot be read ends the file; the statements before it hold. No variable
can hold a NUL, so a file that would set one to such a value is not usable at all.
-/

namespace Payments.Dotenv

/-! ## Statements -/

/-- Where in a statement a character stands. -/
inductive Place where
  | plain
  | blank
  | escape
  | weak
  | weakEscape
  | strong
  | strongEscape
  | comment
deriving DecidableEq, Repr

/-- The place behind a character. -/
def Place.next : Place → Char → Place
  | .plain, c =>
    if c = '\\' then .escape
    else if c = '"' then .weak
    else if c = '\x27' then .strong
    else if Text.isBlank c && c != '\n' && c != '\r' then .blank
    else .plain
  | .blank, c =>
    if c = '\\' then .escape
    else if c = '"' then .weak
    else if c = '\x27' then .strong
    else .plain
  | .escape, _ => .plain
  | .weak, c => if c = '\\' then .weakEscape else if c = '"' then .plain else .weak
  | .weakEscape, _ => .weak
  | .strong, c => if c = '\\' then .strongEscape else if c = '\x27' then .plain else .strong
  | .strongEscape, _ => .strong
  | .comment, _ => .comment

/-- The statements of a text that goes on from a statement begun; what has been read of that is
given backwards. A statement that is not complete at the end of the text is `none`. -/
def statementsFrom : Place → List Char → List Char → List (Option (List Char))
  | place, begun, [] =>
    if place = .plain then (if begun.isEmpty then [] else [some begun.reverse])
    else if place = .comment then [some begun.reverse]
    else [none]
  | .comment, begun, c :: cs =>
    if c = '\n' then some begun.reverse :: statementsFrom .plain [] cs
    else statementsFrom .comment begun cs
  | place, begun, c :: cs =>
    if c = '#' && (place = .blank || begun.all Text.isBlank) then statementsFrom .comment begun cs
    else
      let next := place.next c
      if c = '\n' && next = .plain then
        some (Text.trimEnd begun.reverse) :: statementsFrom .plain [] cs
      else statementsFrom next (c :: begun) cs

/-- The statements of a text, up to one that is not complete. -/
def statements (text : String) : List (Option (List Char)) :=
  match text.toList with
  | '\ufeff' :: cs => statementsFrom .plain [] cs
  | cs => statementsFrom .plain [] cs

/-! ## Values -/

/-- A part of a value. -/
inductive Piece where
  | char (c : Char)
  /-- The value of a variable. -/
  | variable (name : String)
deriving DecidableEq, Repr

/-- What is being read of a value. The flags tell whether a double quote is open. -/
inductive Mode where
  | open_ (quoted : Bool)
  | strong
  | escape (quoted : Bool)
  /-- Behind a dollar sign; the name is given backwards. -/
  | name (quoted : Bool) (begun : List Char)
  /-- Inside braces behind a dollar sign. -/
  | braces (quoted : Bool) (begun : List Char)
  /-- Behind the value. -/
  | behind

/-- The variable whose name has been read backwards. -/
def named (begun : List Char) : Piece :=
  .variable (String.ofList begun.reverse)

/-- Reads a character of a value: the pieces it completes and what is read next, or nothing if it
may not stand there. -/
def Mode.step : Mode → Char → Option (List Piece × Mode)
  | .behind, c => if c = ' ' || c = '\t' then some ([], .behind) else none
  | .escape quoted, c =>
    if c = '\\' || c = '\x27' || c = '"' || c = '$' || c = ' ' then
      some ([.char c], .open_ quoted)
    else if c = 'n' then some ([.char '\n'], .open_ quoted)
    else none
  | .strong, c => if c = '\x27' then some ([], .open_ false) else some ([.char c], .strong)
  | .name quoted begun, c =>
    if Text.isAlphanumeric c then some ([], .name quoted (c :: begun))
    else if c = '\x7b' && begun.isEmpty then some ([], .braces quoted [])
    else if c = '$' then some ([named begun], .name quoted [])
    else some ([named begun, .char c], .open_ quoted)
  | .braces quoted begun, c =>
    if c = '\x7d' then some ([named begun], .open_ quoted)
    else some ([], .braces quoted (c :: begun))
  | .open_ true, c =>
    if c = '$' then some ([], .name true [])
    else if c = '"' then some ([], .open_ false)
    else if c = '\\' then some ([], .escape true)
    else some ([.char c], .open_ true)
  | .open_ false, c =>
    if c = '$' then some ([], .name false [])
    else if c = '\x27' then some ([], .strong)
    else if c = '"' then some ([], .open_ true)
    else if c = '\\' then some ([], .escape false)
    else if c = ' ' || c = '\t' then some ([], .behind)
    else some ([.char c], .open_ false)

/-- The pieces that the end of a value completes, if it may end there. -/
def Mode.finish : Mode → Option (List Piece)
  | .open_ false | .escape false | .behind => some []
  | .name false begun => some [named begun]
  | _ => none

/-- Reads a value. -/
def value? : Mode → List Char → Option (List Piece)
  | mode, [] => mode.finish
  | .behind, '#' :: _ => some []
  | mode, c :: cs => do
    let (pieces, mode) ← mode.step c
    let rest ← value? mode cs
    some (pieces ++ rest)

/-- Takes a name off the front. -/
def name? (cs : List Char) : Option (String × List Char) :=
  let isNameChar (c : Char) := c.isAlphanum || c = '_' || c = '.'
  match cs with
  | c :: _ =>
    if c.isAlpha || c = '_' then
      some (String.ofList (cs.takeWhile isNameChar), Text.trimStart (cs.dropWhile isNameChar))
    else none
  | [] => none

/-- Takes an equals sign and the blanks behind it off the front. -/
def equals? : List Char → Option (List Char)
  | '=' :: cs => some (Text.trimStart cs)
  | _ => none

/-- Reads the value behind an equals sign; nothing, or a comment, is the empty value. -/
def rightSide? (cs : List Char) : Option (List Piece) :=
  match cs with
  | [] | '#' :: _ => some []
  | cs => value? (.open_ false) cs

/-- Reads a statement: the name and the value that it sets, or nothing if it sets none. The outer
`none` says that it cannot be read. -/
def statement? (cs : List Char) : Option (Option (String × List Piece)) :=
  match Text.trimStart (Text.trimEnd cs) with
  | [] | '#' :: _ => some none
  | cs => do
    let (name, rest) ← name? cs
    match equals? rest with
    | some rest => (rightSide? rest).map fun pieces => some (name, pieces)
    | none =>
      if name = "export" then do
        let (name, rest) ← name? rest
        let rest ← equals? rest
        (rightSide? rest).map fun pieces => some (name, pieces)
      else none

/-- The names and values of statements, up to one that cannot be read. -/
def assignments : List (Option (List Char)) → List (String × List Piece)
  | some cs :: rest =>
    match statement? cs with
    | some (some a) => a :: assignments rest
    | some none => assignments rest
    | none => []
  | _ => []

/-! ## Loading -/

section

variable {m : Type → Type} [Monad m]

/-- The text of a value. A variable that is not set counts as empty. -/
def resolve (value : String → m (Option String)) : List Piece → m String
  | [] => return ""
  | .char c :: rest => return String.singleton c ++ (← resolve value rest)
  | .variable name :: rest => do
    let text := (← value name).getD ""
    return text ++ (← resolve value rest)

/-- Whether a variable can have the value. -/
def isSettable (text : String) : Bool :=
  !text.toList.contains '\x00'

/-- Sets variables one after another. A variable that is set already keeps its value. There is no
result if a value cannot be set. -/
def setAll (outer : String → m (Option String)) (set : List (String × String)) :
    List (String × List Piece) → m (Option (List (String × String)))
  | [] => return some set
  | (name, pieces) :: rest => do
    let current (name : String) : m (Option String) := do
      match ← outer name with
      | some text => return some text
      | none => return set.lookup name
    let text ← resolve current pieces
    match ← current name with
    | some _ => setAll outer set rest
    | none =>
      if isSettable text then setAll outer (set ++ [(name, text)]) rest else return none

/-- The variables that a file sets besides those that are set outside; none, if the file is not
usable. -/
def load (outer : String → m (Option String)) (text : String) :
    m (Option (List (String × String))) :=
  setAll outer [] (assignments (statements text))

end

end Payments.Dotenv
