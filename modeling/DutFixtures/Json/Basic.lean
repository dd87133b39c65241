import DutFixtures.Decimal.Binary64

namespace DutFixtures

/-- A JSON value. Integers are kept apart from numbers written with a point, an
exponent or as a negative zero. The fields of an object stay in written order. -/
inductive Json where
  | null
  | bool (value : Bool)
  | integer (value : Int)
  | decimal (value : Decimal)
  | text (value : String)
  | list (items : List Json)
  | object (fields : List (String × Json))
  deriving Repr

/-- The last of several equal keys counts. -/
def lookupField (key : String) : List (String × Json) → Option Json
  | [] => none
  | (name, value) :: rest =>
    match lookupField key rest with
    | some later => some later
    | none => if name = key then some value else none

def Json.field? (key : String) : Json → Option Json
  | .object fields => lookupField key fields
  | _ => none

def Json.ofOption : Option String → Json
  | none => .null
  | some s => .text s

end DutFixtures
