import QueryLoom.Model
import QueryLoom.Value

/-!
# Filters

`Filter` compares a field with a value. An operator that is not known is kept as it is; a filter
with one sets no condition.
-/

namespace QueryLoom

/-- How a filter compares. -/
inductive Comparison where
  | equals
  | contains
  | greaterThan
  | lessThan
  | other (name : String)
deriving DecidableEq, Repr, Inhabited

namespace Comparison

def name : Comparison → String
  | .equals => "equals"
  | .contains => "contains"
  | .greaterThan => "greater_than"
  | .lessThan => "less_than"
  | .other s => s

def ofName (s : String) : Comparison :=
  if s = "equals" then .equals
  else if s = "contains" then .contains
  else if s = "greater_than" then .greaterThan
  else if s = "less_than" then .lessThan
  else .other s

/-- Whether filters with this operator set a condition. -/
def isKnown : Comparison → Bool
  | .other _ => false
  | _ => true

def decoder : Json.Decoder Comparison := fun d => (Json.Decoder.string d).map ofName

end Comparison

/-- A comparison of a field with a value. -/
structure Filter where
  id : Option String := none
  field : String
  comparison : Comparison
  value : Value
deriving Repr, Inhabited

namespace Filter

/-- The filters on fields that a model lists. -/
def restrict (fs : List Filter) (m : Model) : List Filter := fs.filter fun f => m.hasField f.field

def toJson (f : Filter) : Json :=
  .object
    (Json.optionalMember "id" (f.id.map .text)
      ++ [("field", .text f.field), ("operator", .text f.comparison.name),
        ("value", f.value.toJson)])

def record : Json.Record Filter where
  noun := "struct Filter"
  blank := default
  fields :=
    [.of "id" .defaulted (.optional .string) fun f s => { f with id := s },
     .of "field" .required .string fun f s => { f with field := s },
     .of "operator" .required Comparison.decoder fun f c => { f with comparison := c },
     .of "value" .required Value.decoder fun f v => { f with value := v }]

end Filter

end QueryLoom
