import QueryLoom.Json.Decoder
import QueryLoom.KeywordError
import QueryLoom.Text.Blank
import QueryLoom.Text.Ending
import QueryLoom.Text.LetterCase

/-!
# Joins

1. `JoinKind` is one of four kinds; `JoinKind.parse` reads one, `JoinKind.sql` writes it.
2. `Join` declares that two tables can be joined on a field of each.
-/

namespace QueryLoom

/-- The kinds of joins. -/
inductive JoinKind where
  | inner
  | left
  | right
  | full
deriving DecidableEq, Repr, Inhabited

namespace JoinKind

/-- The keyword of a kind. -/
def keyword : JoinKind → String
  | .inner => "INNER"
  | .left => "LEFT"
  | .right => "RIGHT"
  | .full => "FULL"

/-- The kind in SQL. -/
def sql (k : JoinKind) : String := k.keyword ++ " JOIN"

/-- The kind of a keyword. -/
def ofKeyword? (s : String) : Option JoinKind :=
  if s = "INNER" then some .inner
  else if s = "LEFT" then some .left
  else if s = "RIGHT" then some .right
  else if s = "FULL" then some .full
  else none

/-- A text in capitals, with its blanks at the ends left out and one blank between its words. -/
def normalized (s : String) : List Char :=
  Text.upper ([' '].intercalate (Text.words s.toList))

/-- Reads a kind of any letter case, with any number of `OUTER` after it and `JOIN` at the end. -/
def parse? (s : String) : Option JoinKind :=
  let withoutJoin := Text.dropEnding " JOIN".toList (normalized s)
  ofKeyword? (String.ofList (Text.dropEndings " OUTER".toList withoutJoin))

/-- Reads a kind, or says which text is none. -/
def parse (s : String) : Except KeywordError JoinKind := (parse? s).elim (.error (.joinKind s)) .ok

/-- The error text for a text that is no kind. -/
def unknownMessage (s : String) : String := (KeywordError.joinKind s).message

def decoder : Json.Decoder JoinKind := .parsed fun s => (parse s).mapError KeywordError.message

end JoinKind

/-- The fields that two joined tables have in common. -/
structure JoinKey where
  left : String
  right : String
deriving DecidableEq, Repr, Inhabited

namespace JoinKey

def toJson (k : JoinKey) : Json := .object [("from", .text k.left), ("to", .text k.right)]

def record : Json.Record JoinKey where
  noun := "struct JoinOn"
  blank := default
  fields :=
    [.of "from" .required .string fun k s => { k with left := s },
     .of "to" .required .string fun k s => { k with right := s }]

end JoinKey

/-- A declared join of two tables. -/
structure Join where
  left : String
  right : String
  kind : JoinKind
  key : JoinKey
deriving DecidableEq, Repr, Inhabited

namespace Join

/-- Whether a table is one of the two. -/
def touches (j : Join) (table : String) : Bool := j.left = table || j.right = table

/-- The table at the other end, seen from one of the two. -/
def opposite (j : Join) (table : String) : String := if j.left = table then j.right else j.left

def toJson (j : Join) : Json :=
  .object
    [("from", .text j.left), ("to", .text j.right), ("type", .text j.kind.sql),
     ("on", j.key.toJson)]

def record : Json.Record Join where
  noun := "struct Join"
  blank := default
  fields :=
    [.of "from" .required .string fun j s => { j with left := s },
     .of "to" .required .string fun j s => { j with right := s },
     .of "type" .required JoinKind.decoder fun j k => { j with kind := k },
     .of "on" .required JoinKey.record.decoder fun j k => { j with key := k }]

end Join

end QueryLoom
