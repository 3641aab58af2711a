/-!
# Payments.Json.Fault -- why a text was not read

A text fails to be read for one of two kinds of reason: it is not JSON (`malformed`), or it is JSON
that does not have the shape or the contents asked for. Only the first problem met from left to
right is reported.
-/

namespace Payments.Json

/-- The first problem met while reading a text. -/
inductive Fault where
  /-- The text is not JSON, or a value in it cannot be represented. -/
  | malformed
  /-- A value of another kind stands where one was expected. -/
  | mismatch
  /-- A mandatory field is absent. -/
  | missing (field : String)
  /-- A field is given twice. -/
  | repeated (field : String)
  /-- A name is none of those expected. -/
  | unknown (name : String) (expected : List String)
  /-- The value has the right shape and is refused for what it says. -/
  | refused (reason : String)
deriving DecidableEq, Repr

/-- The names that would have been accepted, as a phrase. -/
def Fault.alternatives : List String → String
  | [] => "there are no variants"
  | [a] => s!"expected `{a}`"
  | [a, b] => s!"expected `{a}` or `{b}`"
  | names => "expected one of " ++ ", ".intercalate (names.map fun a => s!"`{a}`")

/-- The text of a problem that has one. -/
def Fault.message? : Fault → Option String
  | .malformed | .mismatch => none
  | .missing field => some s!"missing field `{field}`"
  | .repeated field => some s!"duplicate field `{field}`"
  | .unknown name expected => some (s!"unknown variant `{name}`, " ++ alternatives expected)
  | .refused reason => some reason

end Payments.Json
