import RouteDoc.Settings
import RouteDoc.Text.Blank

/-!
# Requests to the service

* `request`: what a request consists of;
* `replyText`: the text of a reply.
-/

namespace RouteDoc.Service

/-- A message of a request. -/
def message (role content : String) : Json :=
  .obj [("role", .str role), ("content", .str content)]

/-- What a request consists of. -/
def request (s : ServiceSettings) (instructions question : String) : Fields :=
  [("model", .str s.model),
    ("messages", .arr [message "system" instructions, message "user" question]),
    ("temperature", .float s.temperature), ("max_tokens", .int s.maxTokens)]

/-- The text of a reply: that of its first choice, without white space around
it, if there is one. -/
def replyText (choices : List (Option String)) : String :=
  match choices with
  | some text :: _ => Text.trim text
  | _ => ""

end RouteDoc.Service
