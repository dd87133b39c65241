import DutFixtures.Tool.Answer

namespace DutFixtures

/-- What a client asks of the server after the handshake. -/
inductive Request where
  /-- A call of a tool; `null` stands for arguments that are left out. -/
  | call (tool : String) (arguments : Json)
  /-- Any other method, without parameters. -/
  | method (name : String)
  deriving Repr

/-- The answer to a request that the server understands. -/
inductive Response where
  | tool (result : Except Refusal ToolResult)
  | value (json : Json)
  deriving Repr

/-- A session is open until a request arrives that cannot be understood. After that
nothing is read any more. -/
inductive Reply where
  | answered (log : List Event) (response : Response)
  | closed
  deriving Repr

def Reply.log : Reply → List Event
  | .answered log _ => log
  | .closed => []

/-- The methods that are answered without regard to the tools. -/
def methodValue? (name : String) : Option Json :=
  if name = "ping" then some (.object [])
  else if name = "tools/list" then some toolCatalogue
  else if name = "resources/list" then some (.object [("resources", .list [])])
  else if name = "resources/templates/list" then some (.object [("resourceTemplates", .list [])])
  else if name = "prompts/list" then some (.object [("prompts", .list [])])
  else none

/-- The fields of the arguments of a call, unless they are no arguments at all. -/
def argumentFields? : Json → Option (List (String × Json))
  | .null => some []
  | .object fields => some fields
  | _ => none

/-- Answers a request in a session that is open. -/
def Request.reply (request : Request) (defaults : Defaults) (bench : Bench) : Reply :=
  match request with
  | .call tool arguments =>
    match argumentFields? arguments with
    | none => .closed
    | some fields =>
      let answer := answerCall defaults bench tool fields
      .answered answer.log (.tool answer.result)
  | .method name =>
    match methodValue? name with
    | none => .closed
    | some json => .answered [] (.value json)

/-- The paths that the answer to a request may depend on. -/
def Request.paths (request : Request) (defaults : Defaults) : List String :=
  match request with
  | .method _ => []
  | .call name arguments =>
    match argumentFields? arguments, Tool.ofName? name with
    | some fields, some tool =>
      match tool.decode fields with
      | .error _ => []
      | .ok decoded => decoded.paths defaults
    | _, _ => []

def Reply.isOpen : Reply → Bool
  | .answered .. => true
  | .closed => false

/-- Whether the server still reads requests. -/
structure Session where
  isOpen : Bool := true
  deriving DecidableEq, Repr

/-- Answers a request, which may end the session. -/
def Session.step (s : Session) (defaults : Defaults) (bench : Bench) (request : Request) :
    Session × Reply :=
  if s.isOpen then
    let reply := request.reply defaults bench
    (⟨reply.isOpen⟩, reply)
  else (s, .closed)

/-- The replies to a sequence of requests on a bench that does not change. -/
def Session.replies (s : Session) (defaults : Defaults) (bench : Bench) :
    List Request → List Reply
  | [] => []
  | request :: rest =>
    let (s, reply) := s.step defaults bench request
    reply :: s.replies defaults bench rest

def protocolVersion : String := "2024-11-05"

def instructions : String :=
  "MQTT Test Fixtures MCP Server - Resolve build directories and DUT parameters for on-target MQTT client tests. 6 tools available: list_build_candidates, resolve_build_dir, resolve_duts, host_ip, runner_ip, log_performance."

/-- The answer to the handshake. The older of the two versions, compared as texts,
is the one that is spoken. -/
def welcome (clientVersion : String) : Json :=
  .object
    [("protocolVersion",
        .text (if clientVersion < protocolVersion then clientVersion else protocolVersion)),
      ("capabilities", .object [("tools", .object [])]),
      ("serverInfo", .object [("name", .text "rmcp"), ("version", .text "0.3.2")]),
      ("instructions", .text instructions)]

def welcomeEvent : Event :=
  ⟨.info, .tools, "MQTT test fixtures MCP server initialized with 6 tools"⟩

end DutFixtures
