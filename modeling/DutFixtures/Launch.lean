import DutFixtures.CommandLine.Parse
import DutFixtures.LogFilter.Basic
import DutFixtures.Session
import DutFixtures.Text.Terminal

namespace DutFixtures

/-- What a command line leads to before anything is read from the client. -/
inductive Startup where
  | refused (e : UsageError)
  /-- The log filter cannot be taken apart. -/
  | noFilter (text : String)
  /-- The log file cannot be opened. -/
  | noLog (path : String)
  | started (options : Options) (filter : LogFilter)
  deriving DecidableEq, Repr

/-- Reads the command line and the log filter and opens the log file, in this order. -/
def startup (opensLog : String → Bool) (argv : List String) : Startup :=
  match Options.parse argv with
  | .error e => .refused e
  | .ok options =>
    match LogFilter.ofString? options.logLevel, options.logFile with
    | none, _ => .noFilter options.logLevel
    | some filter, none => .started options filter
    | some filter, some path => if opensLog path then .started options filter else .noLog path

/-- The exit code of a program whose log filter cannot be taken apart. -/
def noFilterCode : Nat := 101

/-- The events of a program that starts. -/
def Options.startEvents (o : Options) : List Event :=
  [⟨.debug, .program, "Logging initialized with level: " ++ o.logLevel⟩,
    ⟨.info, .program, "Starting MQTT Test Fixtures MCP Server v" ++ programVersion⟩,
    ⟨.debug, .program, "Fixture defaults: " ++ o.defaults.shown⟩]

/-- The event of a client that leaves before the handshake. -/
def noHandshakeEvent : Event :=
  ⟨.error, .program, "Serving error: ConnectionClosed(\"initialized request\")"⟩

/-- The first line that an event takes in the log, where a line end follows it. -/
def Event.logLine (e : Event) : String :=
  String.ofList (firstLine (e.level.label ++ " " ++ harmless e.message ++ "\n").toList)

/-- What a client does: it leaves at once, or makes the handshake with its version of
the protocol, sends requests and leaves. -/
inductive Client where
  | leaves
  | asks (version : String) (requests : List Request)
  deriving Repr

def Client.requests : Client → List Request
  | .leaves => []
  | .asks _ requests => requests

/-- A whole run of the program: its exit code, what it prints beside the protocol, the
events in its log if it has one, and its answers to the handshake and the requests. -/
structure Transcript where
  exitCode : Nat
  printed : String := ""
  log : Option (List Event) := none
  handshake : Option Json := none
  replies : List Reply
  deriving Repr

/-- The run of a program that ends without an answer to anything. -/
def Transcript.unanswered (exitCode : Nat) (printed : String) (client : Client) : Transcript where
  exitCode
  printed
  replies := client.requests.map fun _ => .closed

/-- Runs the program with a client. The log holds the events that its filter lets
through, in order. -/
def launch (opensLog : String → Bool) (bench : Bench) (argv : List String) (client : Client) :
    Transcript :=
  match startup opensLog argv with
  | .refused e => .unanswered e.exitCode (e.printed.getD "") client
  | .noFilter _ => .unanswered noFilterCode "" client
  | .noLog _ => .unanswered 1 "" client
  | .started options filter =>
    match client with
    | .leaves =>
      { exitCode := 1
        log := some ((options.startEvents ++ [noHandshakeEvent]).filter filter.passes)
        replies := [] }
    | .asks version requests =>
      let replies := Session.replies {} options.defaults bench requests
      { exitCode := 0
        log := some ((options.startEvents ++ [welcomeEvent]).filter filter.passes ++
          (replies.flatMap Reply.log).filter filter.passesServing)
        handshake := some (welcome version)
        replies }

end DutFixtures
