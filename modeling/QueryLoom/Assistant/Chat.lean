import QueryLoom.Json.Decoder

/-!
# Chat messages

`ChatMessage` is one turn of a conversation, by the user or by the model that answers.
-/

namespace QueryLoom

/-- Who speaks. -/
inductive ChatRole where
  | user
  | model
deriving DecidableEq, Repr, Inhabited

namespace ChatRole

def name : ChatRole → String
  | .user => "user"
  | .model => "model"

def decoder : Json.Decoder ChatRole := .oneOf ([.user, .model].map fun r => (r.name, r))

end ChatRole

/-- One turn of a conversation. -/
structure ChatMessage where
  role : ChatRole
  text : String
deriving DecidableEq, Repr, Inhabited

namespace ChatMessage

def toJson (m : ChatMessage) : Json := .object [("role", .text m.role.name), ("text", .text m.text)]

def record : Json.Record ChatMessage where
  noun := "struct ChatMessage"
  blank := default
  fields :=
    [.of "role" .required ChatRole.decoder fun m r => { m with role := r },
     .of "text" .required .string fun m s => { m with text := s }]

end ChatMessage

end QueryLoom
