import QueryLoom.Json.Decoder
import QueryLoom.KeywordError
import QueryLoom.Text.LetterCase

/-!
# Aggregate functions

`Aggregation` is one of five aggregate functions, or another one given by a keyword. A keyword is a
bare identifier, so that it can stand in SQL as it is.
-/

namespace QueryLoom

/-- An aggregate function. -/
inductive Aggregation where
  | sum
  | count
  | avg
  | min
  | max
  | custom (keyword : String)
deriving DecidableEq, Repr, Inhabited

namespace Aggregation

/-- The function's keyword. -/
def keyword : Aggregation → String
  | .sum => "SUM"
  | .count => "COUNT"
  | .avg => "AVG"
  | .min => "MIN"
  | .max => "MAX"
  | .custom k => k

/-- Whether the function is none of the five. -/
def isCustom : Aggregation → Bool
  | .custom _ => true
  | _ => false

/-- The function of a keyword in capitals. -/
def ofKeyword? (s : String) : Option Aggregation :=
  if s = "SUM" then some .sum
  else if s = "COUNT" then some .count
  else if s = "AVG" then some .avg
  else if s = "MIN" then some .min
  else if s = "MAX" then some .max
  else none

/-- A character that may stand in an identifier but not begin one, or may begin one too. -/
def isIdentifierChar (c : Char) : Bool := c.isAlphanum || c = '_'

/-- An ASCII identifier. -/
def isIdentifier : List Char → Bool
  | [] => false
  | c :: cs => (c.isAlpha || c = '_') && cs.all isIdentifierChar

/-- Reads a keyword of any letter case. -/
def parse? (s : String) : Option Aggregation :=
  let capitals := Text.toUpper s
  match ofKeyword? capitals with
  | some a => some a
  | none => if isIdentifier s.toList then some (.custom capitals) else none

/-- Reads a keyword, or says which text is none. -/
def parse (s : String) : Except KeywordError Aggregation :=
  (parse? s).elim (.error (.aggregation s)) .ok

/-- The error text for a text that is no keyword. -/
def invalidMessage (s : String) : String := (KeywordError.aggregation s).message

def decoder : Json.Decoder Aggregation := .parsed fun s => (parse s).mapError KeywordError.message

end Aggregation

end QueryLoom
