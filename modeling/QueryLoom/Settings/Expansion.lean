import QueryLoom.Text.Pattern

/-!
# References to variables

1. `referencePattern` matches what refers to a variable in a text: `$` and a name in braces, or `$`
   and a run of letters, digits and underscores.
2. `expand` goes through the matches from left to right and puts the values of the variables in
   their places.
-/

namespace QueryLoom

open Text

/-- A variable's value by its name. -/
abbrev Environment := String → Option String

/-- A character of a name that needs no braces. -/
def isNameChar (c : Char) : Bool := c.isAlphanum || c = '_'

/-- `$`, an opening brace, a name as the first group, and a closing brace. -/
def bracedReference : Pattern :=
  .seq (.one (· = '$')) <| .seq (.one (· = '{')) <|
    .seq (.group 1 (.many (· ≠ '}'))) (.one (· = '}'))

/-- `$` and a name as the second group. -/
def plainReference : Pattern :=
  .seq (.one (· = '$')) (.group 2 (.seq (.one isNameChar) (.many isNameChar)))

/-- A reference to a variable, rather with braces. -/
def referencePattern : Pattern := .choice bracedReference plainReference

/-- The name of the variable that is referred to. -/
def referredName (o : Pattern.Occurrence) : String :=
  String.ofList (((o.group? 1).or (o.group? 2)).getD [])

/-- The names of the variables that a text refers to. -/
def references (s : String) : List String :=
  (referencePattern.occurrences s.toList).map referredName

/-- The value of a variable, or the name of the one that is not set. -/
def Environment.lookup (env : Environment) (name : String) : Except String (List Char) :=
  match env name with
  | some v => .ok v.toList
  | none => .error name

/-- Puts values in place of the references that are left. The result so far has all of the text
before `last`. -/
def replaceFrom (env : Environment) (text : List Char) (last : Nat) (result : List Char) :
    List Pattern.Occurrence → Except String (List Char)
  | [] => .ok (result ++ text.drop last)
  | o :: os => do
    let before := (text.drop last).take (o.start - last)
    let value ← env.lookup (referredName o)
    replaceFrom env text o.stop (result ++ before ++ value) os

/-- A text with the values of variables in place of references, or the name of the first variable
that is not set. -/
def expand (env : Environment) (s : String) : Except String String :=
  (replaceFrom env s.toList 0 [] (referencePattern.occurrences s.toList)).map String.ofList

end QueryLoom
