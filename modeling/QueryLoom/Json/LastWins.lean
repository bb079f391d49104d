import QueryLoom.Entries
import QueryLoom.Json.Tree

/-!
# Objects with distinct keys

`Json.lastWins` gives every object inside a value one member per key: the last value given to the
key, at the place where the key came first.
-/

namespace QueryLoom.Json

mutual

/-- A value whose objects have one member per key. -/
def lastWins : Json → Json
  | .array items => .array (lastWinsItems items)
  | .object members => .object (Entries.ofList (lastWinsMembers members))
  | .null => .null
  | .bool b => .bool b
  | .number n => .number n
  | .text s => .text s

/-- `lastWins` on each item. -/
def lastWinsItems : List Json → List Json
  | [] => []
  | v :: vs => v.lastWins :: lastWinsItems vs

/-- `lastWins` on the value of each member. -/
def lastWinsMembers : List (String × Json) → List (String × Json)
  | [] => []
  | (k, v) :: ms => (k, v.lastWins) :: lastWinsMembers ms

end

end QueryLoom.Json
