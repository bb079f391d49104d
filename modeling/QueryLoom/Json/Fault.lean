import QueryLoom.Json.Token
import QueryLoom.Text.Shown

/-!
# Faults of a JSON text

1. `Mismatch` says how a JSON value differs from the shape that was expected of it.
2. `Fault` is what stops a decoder: the text breaks, or a value does not match.
3. `Mismatch.message` is the one place where the wording stands.
-/

namespace QueryLoom.Json

/-- What stands where something else was expected. -/
inductive Found where
  | null
  | bool (b : Bool)
  | number (n : Number)
  | text (s : String)
  | sequence
  | map
deriving Repr

/-- How a value differs from the shape expected of it. -/
inductive Mismatch where
  | invalidType (found : Found) (expected : String)
  | invalidValue (found : Found) (expected : String)
  | invalidLength (length : Nat) (expected : String)
  | missingField (name : String)
  | duplicateField (name : String)
  | unknownVariant (name : String) (known : List String)
  /-- None of the alternatives named by `expected` matches. -/
  | noAlternative (expected : String)
  /-- A text is outside the language of its type. -/
  | refused (reason : String)
deriving Repr

/-- What stops a decoder. -/
inductive Fault where
  | broken (b : Break)
  | mismatch (m : Mismatch)
deriving Repr

/-- A value as error texts name it. -/
def Found.describe : Found → String
  | .null => "null"
  | .bool true => "boolean `true`"
  | .bool false => "boolean `false`"
  | .number (.integer n) => "integer `" ++ String.ofList (Decimal.integer n) ++ "`"
  | .number (.real x) => "floating point `" ++ String.ofList (floatText x) ++ "`"
  | .text s => "string " ++ Text.shown s
  | .sequence => "sequence"
  | .map => "map"

/-- A name between backticks. -/
def ticked (s : String) : String := "`" ++ s ++ "`"

/-- The list of names that would have been right. -/
def alternatives : List String → String
  | [a] => ticked a
  | [a, b] => ticked a ++ " or " ++ ticked b
  | names => "one of " ++ String.intercalate ", " (names.map ticked)

/-- The error text. -/
def Mismatch.message : Mismatch → String
  | .invalidType found expected =>
    "invalid type: " ++ found.describe ++ ", expected " ++ expected
  | .invalidValue found expected =>
    "invalid value: " ++ found.describe ++ ", expected " ++ expected
  | .invalidLength n expected =>
    "invalid length " ++ String.ofList (Decimal.natural n) ++ ", expected " ++ expected
  | .missingField name => "missing field " ++ ticked name
  | .duplicateField name => "duplicate field " ++ ticked name
  | .unknownVariant name known =>
    "unknown variant " ++ ticked name ++ ", expected " ++ alternatives known
  | .noAlternative expected => "data did not match any variant of " ++ expected
  | .refused reason => reason

end QueryLoom.Json
