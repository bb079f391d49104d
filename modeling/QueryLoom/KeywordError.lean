/-!
# Refused keywords

`KeywordError` is a text that was to be a keyword and is none; `KeywordError.message` says so.
-/

namespace QueryLoom

/-- Why a text is refused: it names no aggregate function, or no kind of join. -/
inductive KeywordError where
  | aggregation (text : String)
  | joinKind (text : String)
deriving DecidableEq, Repr

/-- What is said of a refused text. -/
def KeywordError.message : KeywordError → String
  | .aggregation s => "Invalid aggregation keyword: " ++ s
  | .joinKind s => "Unknown join type: " ++ s

end QueryLoom
