import DutFixtures.Launch
import DutFixtures.Message

namespace DutFixtures

/-- Whether a directory stands at a path: only there a dot names anything. -/
def standsDirectory (path : String) : IO Bool := do
  if path = "" ∨ path.toList.contains '\x00' then return false
  try
    let _ ← IO.FS.realPath (path ++ "/.")
    return true
  catch _ => return false

/-- Looks at all paths that a request may depend on, and answers it from that. The
program opens no sockets, so it knows as much as a host without a network. -/
def observedBench (defaults : Defaults) (request : Request) : IO Bench := do
  let directories ← (request.paths defaults).filterM fun path => standsDirectory path
  return ⟨fun path => directories.contains path, .offline⟩

/-- Writes the events that a filter keeps, one on a line. -/
def writeEvents (out : IO.FS.Stream) (keeps : Event → Bool) (events : List Event) : IO Unit := do
  for e in events do
    if keeps e then
      out.putStrLn (e.level.label ++ " " ++ e.component.path ++ ": " ++ harmless e.message)
  out.flush

def writeMessage (out : IO.FS.Stream) (json : Json) : IO Unit := do
  out.putStrLn json.line
  out.flush

/-- Answers requests until the input ends or a message cannot be understood. -/
partial def serve (input output : IO.FS.Stream) (log : List Event → IO Unit)
    (defaults : Defaults) : IO Unit := do
  let line ← input.getLine
  if line.isEmpty then return
  match Message.read? line with
  | none => return
  | some .notification => serve input output log defaults
  | some (.handshake ..) => return
  | some (.request id request) =>
    let bench ← observedBench defaults request
    match request.reply defaults bench with
    | .closed => return
    | .answered events response =>
      log events
      writeMessage output (response.message id)
      serve input output log defaults

/-- Serves one client after the program has started. -/
def serveClient (options : Options) (filter : LogFilter) (logTo : IO.FS.Stream) :
    IO UInt32 := do
  let log := writeEvents logTo filter.passes
  log options.startEvents
  let input ← IO.getStdin
  let output ← IO.getStdout
  match Message.read? (← input.getLine) with
  | some (.handshake id version) =>
    log [welcomeEvent]
    writeMessage output (envelope id ("result", welcome version))
    serve input output (writeEvents logTo filter.passesServing) options.defaults
    return 0
  | _ =>
    log [noHandshakeEvent]
    return 1

def openLog (path : String) : IO (Option IO.FS.Stream) := do
  try
    let handle ← IO.FS.Handle.mk path .append
    return some (IO.FS.Stream.ofHandle handle)
  catch _ => return none

def runProgram (argv : List String) : IO UInt32 := do
  match startup (fun _ => true) argv with
  | .refused e =>
    match e.printed with
    | some text => (← IO.getStdout).putStr text
    | none => (← IO.getStderr).putStrLn (e.headline.getD "error: unexpected argument")
    return UInt32.ofNat e.exitCode
  | .noFilter _ => return UInt32.ofNat noFilterCode
  | .noLog _ => return 1
  | .started options filter =>
    match options.logFile with
    | none => serveClient options filter (← IO.getStderr)
    | some path =>
      match ← openLog path with
      | none => return 1
      | some stream => serveClient options filter stream

end DutFixtures

def main (argv : List String) : IO UInt32 :=
  DutFixtures.runProgram argv
