import DutFixtures.Decimal.Shortest
import DutFixtures.Json.Basic

namespace DutFixtures

mutual

/-- A document as it arrives when a program in between has read it and has written it
anew. Only its numbers may change: integers beyond 64 bits become floating point
numbers, and those are written with the fewest digits. -/
def Json.forwarded : Json → Json
  | .integer n => if isWordSized n then .integer n else .decimal (Decimal.ofInt n).rewritten
  | .decimal d => .decimal d.rewritten
  | .list items => .list (forwardedItems items)
  | .object fields => .object (forwardedFields fields)
  | value => value

def forwardedItems : List Json → List Json
  | [] => []
  | item :: rest => item.forwarded :: forwardedItems rest

def forwardedFields : List (String × Json) → List (String × Json)
  | [] => []
  | (key, value) :: rest => (key, value.forwarded) :: forwardedFields rest

end

end DutFixtures
