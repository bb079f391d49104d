import QueryLoom.Json.Numeral

/-!
# JSON values

1. `Json` is a JSON value, the members of an object in document order, repeats kept.
2. `Json.compact` writes it without blanks, `Json.indented` over lines.
-/

namespace QueryLoom

/-- A JSON value. -/
inductive Json where
  | null
  | bool (b : Bool)
  | number (n : Json.Number)
  | text (s : String)
  | array (items : List Json)
  | object (members : List (String × Json))
deriving Repr, Inhabited

namespace Json

/-! ## Building -/

/-- A list of texts. -/
def texts (xs : List String) : Json := .array (xs.map .text)

/-- A member that is left out if there is no value. -/
def optionalMember (name : String) (v : Option Json) : List (String × Json) :=
  (v.map fun x => (name, x)).toList

/-! ## Writing -/

/-- A hexadecimal digit in lower case. -/
def hexDigit (n : Nat) : Char := (Nat.toDigits 16 (n % 16)).headD '0'

/-- A character inside a quoted text. -/
def escapeChar (c : Char) : List Char :=
  if c == '"' then ['\\', '"']
  else if c == '\\' then ['\\', '\\']
  else if c == '\x08' then ['\\', 'b']
  else if c == '\x0c' then ['\\', 'f']
  else if c == '\n' then ['\\', 'n']
  else if c == '\r' then ['\\', 'r']
  else if c == '\t' then ['\\', 't']
  else if c.toNat < 0x20 then
    ['\\', 'u', '0', '0', hexDigit (c.toNat / 16), hexDigit c.toNat]
  else [c]

/-- A quoted text. -/
def quoted (cs : List Char) : List Char := '"' :: (cs.flatMap escapeChar ++ ['"'])

/-- Texts joined by a separator. -/
def joined (separator : List Char) : List (List Char) → List Char
  | [] => []
  | [t] => t
  | t :: ts => t ++ separator ++ joined separator ts

mutual

/-- A value without blanks. -/
def write : Json → List Char
  | .null => ['n', 'u', 'l', 'l']
  | .bool true => ['t', 'r', 'u', 'e']
  | .bool false => ['f', 'a', 'l', 's', 'e']
  | .number n => n.written
  | .text s => quoted s.toList
  | .array items => '[' :: (joined [','] (writeItems items) ++ [']'])
  | .object members => '{' :: (joined [','] (writeMembers members) ++ ['}'])

/-- The items of an array, each without blanks. -/
def writeItems : List Json → List (List Char)
  | [] => []
  | v :: vs => v.write :: writeItems vs

/-- The members of an object, each without blanks. -/
def writeMembers : List (String × Json) → List (List Char)
  | [] => []
  | (k, v) :: ms => (quoted k.toList ++ ':' :: v.write) :: writeMembers ms

end

/-- A value as compact text. -/
def compact (v : Json) : String := String.ofList v.write

/-- A line break and `depth` steps of two spaces. -/
def newLine (depth : Nat) : List Char := '\n' :: List.replicate (2 * depth) ' '

/-- Texts between brackets, each on a line of its own, `depth` steps in. -/
def block (opening closing : Char) (depth : Nat) (parts : List (List Char)) : List Char :=
  if parts.isEmpty then [opening, closing]
  else
    opening :: (newLine (depth + 1) ++ joined (',' :: newLine (depth + 1)) parts
      ++ newLine depth ++ [closing])

mutual

/-- A value over lines, at `depth` steps of indentation. -/
def writeLines (depth : Nat) : Json → List Char
  | .array items => block '[' ']' depth (itemLines (depth + 1) items)
  | .object members => block '{' '}' depth (memberLines (depth + 1) members)
  | .null => ['n', 'u', 'l', 'l']
  | .bool true => ['t', 'r', 'u', 'e']
  | .bool false => ['f', 'a', 'l', 's', 'e']
  | .number n => n.written
  | .text s => quoted s.toList

/-- The items of an array, over lines. -/
def itemLines (depth : Nat) : List Json → List (List Char)
  | [] => []
  | v :: vs => v.writeLines depth :: itemLines depth vs

/-- The members of an object, over lines. -/
def memberLines (depth : Nat) : List (String × Json) → List (List Char)
  | [] => []
  | (k, v) :: ms => (quoted k.toList ++ ':' :: ' ' :: v.writeLines depth) :: memberLines depth ms

end

/-- A value as text over lines, two spaces a level. -/
def indented (v : Json) : String := String.ofList (v.writeLines 0)

end Json

end QueryLoom
