import Payments.Json.Value
import Payments.Table

/-!
# Payments.Json.Member -- objects as maps from names to values

An object that has been read is a list of entries. Here it is used as a map: a member that is absent
counts as `null`, the entries may be put in the order of their names, and one object may be laid
over another, so that its members replace those of the other and the rest stays.
-/

namespace Payments.Json.Document

/-! ## Looking -/

/-- The entries of an object whose keys are names; other values have none. -/
def members : Document → List (String × Document)
  | .object entries _ => entries.filterMap fun
    | (.text name, value) => some (name, value)
    | _ => none
  | _ => []

/-- The member with a name; `null` when there is none. -/
def member (d : Document) (name : String) : Document :=
  (d.members.lookup name).getD .null

/-- The items of a list; other values have none. -/
def items : Document → List Document
  | .list items _ => items
  | _ => []

/-- Whether the value is `null`. -/
def isNull : Document → Bool
  | .null => true
  | _ => false

/-- Whether the value is `true`. -/
def isTrue : Document → Bool
  | .bool b => b
  | _ => false

/-- The text of a string. -/
def text? : Document → Option String
  | .text s => some s
  | _ => none

/-- The value of a whole number. -/
def int? : Document → Option Int
  | .number n =>
    match n.value? with
    | some (.int i) => some i
    | _ => none
  | _ => none

/-! ## Building -/

/-- The object with these members. -/
def ofMembers (members : List (String × Document)) : Document :=
  .object (members.map fun (name, value) => (.text name, value)) true

mutual

/-- The same value with the members of every object in the order of their names. -/
def inNameOrder : Document → Document
  | .list items closed => .list (itemsInNameOrder items) closed
  | .object entries closed =>
    .object ((membersInNameOrder entries).map fun (name, value) => (.text name, value)) closed
  | d => d

/-- The items of a list, each in order. -/
def itemsInNameOrder : List Document → List Document
  | [] => []
  | d :: ds => d.inNameOrder :: itemsInNameOrder ds

/-- The members of an object in the order of their names; of equal names the last one counts. -/
def membersInNameOrder : List (Document × Document) → List (String × Document)
  | [] => []
  | (key, value) :: rest =>
    let later := membersInNameOrder rest
    match key with
    | .text name =>
      if (later.lookup name).isSome then later else putEntry name value.inNameOrder later
    | _ => later

end

mutual

/-- The second value laid over the first. Objects are laid over each other member by member. -/
def overlay : Document → Document → Document
  | base, .object entries closed =>
    match base with
    | .object _ _ => ofMembers (overlayMembers base.members entries)
    | _ => .object entries closed
  | _, d => d

/-- The members of an object laid over those of another. -/
def overlayMembers :
    List (String × Document) → List (Document × Document) → List (String × Document)
  | base, [] => base
  | base, (key, value) :: rest =>
    match key with
    | .text name =>
      let laid := match base.lookup name with
        | some below => overlay below value
        | none => value
      overlayMembers (Table.enter name laid base) rest
    | _ => overlayMembers base rest

end

end Payments.Json.Document
