import QueryLoom.Json.Decoder

/-!
# Cell values

1. `Value` is one cell of a table: null, a 64-bit integer, a float or a text.
2. `Value.display` is its plain text, `Value.toJson` and `Value.decoder` its JSON form.
-/

namespace QueryLoom

/-- One cell of a table. -/
inductive Value where
  | null
  | integer (n : Int64)
  | real (x : Float)
  | text (s : String)
deriving Repr, Inhabited, BEq

namespace Value

def isNull : Value → Bool
  | .null => true
  | _ => false

/-- The text of a text cell. -/
def text? : Value → Option String
  | .text s => some s
  | _ => none

/-- Floats as plain text: the fewest digits that read back, never an exponent, no point in a whole
number. -/
def plainLayout : Decimal.Layout where
  positionalFrom := none
  positionalTo := none
  keepsPoint := false
  mantissaKeepsPoint := false
  exponentDigits := 1
  keepsZeroSign := true
  nan := ['N', 'a', 'N']
  infinity := ['i', 'n', 'f']

/-- A value as plain text. -/
def display : Value → String
  | .null => "NULL"
  | .integer n => String.ofList (Decimal.integer n.toInt)
  | .real x => String.ofList (plainLayout.write x)
  | .text s => s

/-! ## JSON -/

/-- A value in JSON. -/
def toJson : Value → Json
  | .null => .null
  | .integer n => .number (.integer n.toInt)
  | .real x => .number (.real x)
  | .text s => .text s

/-- The cell value of a JSON value. An integer beyond 64 signed bits is a float. -/
def ofJson? : Json → Option Value
  | .null => some .null
  | .number (.integer n) =>
    if Int64.minValue.toInt ≤ n ∧ n ≤ Int64.maxValue.toInt then some (.integer (Int64.ofInt n))
    else some (.real (Float.ofInt n))
  | .number (.real x) => some (.real x)
  | .text s => some (.text s)
  | .bool _ | .array _ | .object _ => none

/-- A cell value in JSON is read whole before its kind is looked at. -/
def decoder : Json.Decoder Value := fun d => do
  let v ← Json.Decoder.any d
  match ofJson? v with
  | some a => .ok a
  | none => Json.refuse (.noAlternative "untagged enum Value")

end Value

end QueryLoom
