import DutFixtures.Json.Reader
import DutFixtures.Session

namespace DutFixtures

/-- A message from the client. -/
inductive Message where
  | handshake (id : Json) (version : String)
  | request (id : Json) (request : Request)
  /-- A message that asks for no answer. -/
  | notification
  deriving Repr

/-- The name of the called tool and its arguments. -/
def callOf? (params : Json) : Option Request :=
  match params.field? "name" with
  | some (.text name) => some (.call name ((params.field? "arguments").getD .null))
  | _ => none

/-- Reads a message. Without an identifier it is a notification. -/
def Message.ofJson? (json : Json) : Option Message :=
  match json.field? "method", json.field? "id" with
  | some (.text _), none => some .notification
  | some (.text method), some id =>
    let params := (json.field? "params").getD .null
    if method = "initialize" then
      match params.field? "protocolVersion" with
      | some (.text version) => some (.handshake id version)
      | _ => none
    else if method = "tools/call" then (callOf? params).map (Message.request id)
    else some (.request id (.method method))
  | _, _ => none

def Message.read? (line : String) : Option Message :=
  (Json.parse? line).bind Message.ofJson?

def envelope (id : Json) (outcome : String × Json) : Json :=
  .object [("jsonrpc", .text "2.0"), ("id", id), outcome]

/-- The message that carries a response. -/
def Response.message (id : Json) : Response → Json
  | .value json => envelope id ("result", json)
  | .tool (.ok result) =>
    envelope id ("result",
      .object
        [("content", .list [.object [("type", .text "text"), ("text", .text result.text)]]),
          ("isError", .bool false)])
  | .tool (.error refusal) =>
    envelope id ("error",
      .object [("code", .integer refusal.blame.code), ("message", .text refusal.message)])

end DutFixtures
