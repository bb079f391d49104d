import QueryLoom.Assistant.Action
import QueryLoom.Json.LastWins
import QueryLoom.Text.Blank

/-!
# Replies of the assistant

1. A reply should be a JSON object with a command and a response text. It may stand in a fence of
   three backticks or between other text; `Reply.body` cuts it out.
2. `Reply.parse` reads a reply. Text that holds no such object is itself the reply's text, and a
   command that is no action is dropped.
-/

namespace QueryLoom

/-- What the assistant answers. -/
structure Reply where
  action : Option Action := none
  text : String
deriving Repr

namespace Reply

open Text

/-- The three backticks around a fenced text. -/
def fence : List Char := ['`', '`', '`']

/-- A text without what it begins with. -/
def dropFront? (front cs : List Char) : Option (List Char) :=
  if front.isPrefixOf cs then some (cs.drop front.length) else none

/-- A text without what it ends in. -/
def dropBack? (back cs : List Char) : Option (List Char) :=
  if back.isSuffixOf cs then some (cs.take (cs.length - back.length)) else none

/-- What stands in a fence, the word `json` after its opening left out. -/
def fenced? (cs : List Char) : Option (List Char) := do
  let inside ← dropFront? fence cs
  let inside := (dropFront? ['j', 's', 'o', 'n'] inside).getD inside
  let inside ← dropBack? fence (trimStart inside)
  return trimEnd inside

/-- The part of a text from the first opening brace to the last closing one. -/
def braced? (cs : List Char) : Option (List Char) :=
  let fromOpening := cs.dropWhile (· ≠ '{')
  let upToClosing := (fromOpening.reverse.dropWhile (· ≠ '}')).reverse
  if upToClosing.isEmpty then none else some upToClosing

/-- The part of a reply that should be JSON. -/
def body (content : List Char) : List Char :=
  let whole := trim content
  let inside := match (fenced? whole).filter (!·.isEmpty) with
    | some inside => trim inside
    | none => whole
  if inside.head? = some '{' then inside else (braced? inside).getD inside

/-- The object of a reply, of whose members two matter. -/
structure Members where
  command : Option Json := none
  response : Option String := none
deriving Inhabited

def Members.record : Json.Record Members where
  noun := "a reply"
  blank := {}
  fields :=
    [.of "thought" .defaulted (.optional .string) fun m _ => m,
     .of "confidence" .defaulted (.optional .any) fun m _ => m,
     .of "command" .defaulted (.optional .any) fun m v => { m with command := v },
     .of "response" .defaulted (.optional .string) fun m s => { m with response := s }]

/-- The text of a reply whose response is missing. -/
def missingText : String := "No response text provided."

/-- The text of a reply without any content. -/
def unreadableText : String := "I couldn't process the response format."

/-- The action that a command stands for. A command was read as a free value, so that of several
members with one key the last counts. -/
def actionOf? (command : Json) : Option Action :=
  (Json.Decoder.value Action.decoder command.lastWins).toOption

/-- Reads a reply. -/
def parse (content : String) : Reply :=
  match Members.record.decoder.text (String.ofList (body content.toList)) with
  | .ok m =>
    { action := m.command.bind actionOf?
      text := (m.response.filter (· ≠ "")).getD missingText }
  | .error _ => { text := if content = "" then unreadableText else content }

end Reply

end QueryLoom
