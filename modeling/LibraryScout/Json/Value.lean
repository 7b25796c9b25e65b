import LibraryScout.Number.Basic

/-!
Contract: JSON values whose objects keep the order of their members.

Owns:
- numbers, which are whole within the signed or unsigned 64-bit range or else binary
  floating-point numbers;
- values, and members of objects as a list of pairs with distinct names: a repeated name keeps
  its first place and takes its last value.

Does not own: the text of a value.
-/

namespace LibraryScout

namespace Json

/-- A number as it was written: whole numbers stay exact. -/
inductive Number where
  | integer (value : Int)
  | float (value : LibraryScout.Number.Binary64)
deriving DecidableEq, Repr

end Json

/-- A JSON value. -/
inductive Json where
  | null
  | bool (value : Bool)
  | number (value : Json.Number)
  | string (value : String)
  | array (items : List Json)
  | object (members : List (String × Json))
deriving Repr

namespace Json

/-- The members of an object, in order. -/
abbrev Members :=
  List (String × Json)

namespace Members

/-- The value of the member with a name. -/
def get? (members : Members) (name : String) : Option Json :=
  (members.find? fun member => member.1 == name).map Prod.snd

/-- Gives a name a value: in place if the name is present, at the end otherwise. -/
def insert (members : Members) (name : String) (value : Json) : Members :=
  match members with
  | [] => [(name, value)]
  | (present, held) :: others =>
      if present = name then
        (name, value) :: others
      else
        (present, held) :: insert others name value

/-- Members inserted one after another. -/
def ofPairs (pairs : List (String × Json)) : Members :=
  pairs.foldl (fun members (name, value) => insert members name value) []

end Members

/-- The value of a member, for objects that have it. -/
def member? (value : Json) (name : String) : Option Json :=
  match value with
  | object members => Members.get? members name
  | _ => none

/-- A whole number. -/
def natural (value : Nat) : Json :=
  number (.integer value)

/-- A list of strings. -/
def strings (items : List String) : Json :=
  array (items.map string)

end Json

end LibraryScout
