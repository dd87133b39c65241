import DutFixtures.Defaults
import DutFixtures.DutRun
import DutFixtures.Host
import DutFixtures.Json.Printer
import DutFixtures.PerformanceLine
import DutFixtures.Tool.Call

namespace DutFixtures

/-- What a call can observe: which paths are directories, and what the host knows. -/
structure Bench where
  isDir : String → Bool
  host : Host

inductive ToolResult where
  | candidates (appDir : String) (names : List String)
  | buildDir (name path : String)
  | duts (duts : List ResolvedDut)
  | hostIp (dest : String) (hostIp : Ipv4)
  | link (link : DutLink)
  | line (text : String)
  deriving DecidableEq, Repr

def ResolvedDut.json (dut : ResolvedDut) : Json :=
  .object [("index", .integer dut.index), ("app_path", .text dut.appDir),
    ("target", .ofOption dut.target), ("config", .text dut.config),
    ("build_dir", .text dut.buildDir)]

def ToolResult.json : ToolResult → Json
  | .candidates appDir names =>
    .object [("app_path", .text appDir), ("candidates", .list (names.map Json.text))]
  | .buildDir name path => .object [("build_dir", .text name), ("path", .text path)]
  | .duts all => .object [("duts", .list (all.map ResolvedDut.json))]
  | .hostIp dest ip => .object [("dest", .text dest), ("host_ip", .text ip.text)]
  | .link ips =>
    .object [("dut_ip", .text ips.dutIp.text), ("host_ip", .text ips.hostIp.text)]
  | .line text => .object [("line", .text text)]

def ToolResult.text (result : ToolResult) : String :=
  result.json.pretty

/-- Who is to blame for a call that fails. -/
inductive Blame where
  | invalidParams
  | internalError
  deriving DecidableEq, Repr

def Blame.code : Blame → Int
  | .invalidParams => -32602
  | .internalError => -32603

/-- A call that fails: who is to blame, and the message for the caller. -/
structure Refusal where
  blame : Blame
  message : String
  deriving DecidableEq, Repr

/-- What a call leads to: the events that it logs, and its result. -/
structure Answer where
  log : List Event
  result : Except Refusal ToolResult
  deriving Repr

def Answer.refused (blame : Blame) (message : String) : Answer :=
  ⟨[], .error ⟨blame, message⟩⟩

def noAppDir : Answer :=
  .refused .invalidParams
    "No application path configured. Set --app-path or pass app_path argument."

/-- The answer to a call whose helper fails. Failures that are not the caller's are
logged as errors. -/
def Failure.answer (e : Failure) (log : List Event) : Answer :=
  if e.blamesCaller then ⟨log, .error ⟨.invalidParams, e.message⟩⟩
  else
    ⟨log ++ [⟨.error, .tools, "Fixture helper failed: " ++ e.message⟩],
      .error ⟨.internalError, e.message⟩⟩

/-- A path that is given and not empty replaces the default. The default is taken as
it is. -/
def Defaults.appDirFor (d : Defaults) (given : Option String) : Option String :=
  (unlessEmpty given).or d.appDir

/-- An empty default counts as none here, unlike that of the application path. -/
def Defaults.destFor (d : Defaults) (given : Option String) : String :=
  ((unlessEmpty given).or (unlessEmpty d.probeDest)).getD publicProbeDest

/-- Parameters that are given, even empty ones, replace the defaults. -/
def Defaults.contextFor (d : Defaults) (p : SearchParams) : Option BuildContext :=
  (d.appDirFor p.appDir).map fun appDir =>
    { appDir
      target := p.target.or d.target
      config := p.config.or d.config
      chosenDir := p.buildDir.or d.buildDir }

def Defaults.requestFor (d : Defaults) (p : RunParams) : Option DutRequest :=
  (d.appDirFor p.appDir).map fun appDir =>
    { count := p.count.getD d.dutCount
      appDir
      target := p.target.or d.target
      config := p.config.or d.config
      buildDir := p.buildDir.or d.buildDir }

/-- The candidates of a context. The file system is not asked. -/
def BuildContext.candidatesAnswer (ctx : BuildContext) : Answer :=
  ⟨[⟨.debug, .tools,
      "Build candidates for " ++ ctx.appDir ++ ": " ++ quotedList ctx.candidates⟩],
    .ok (.candidates ctx.appDir ctx.candidates)⟩

def BuildContext.buildDirAnswer (ctx : BuildContext) (isDir : String → Bool) : Answer :=
  let found := ctx.search isDir
  let looks := found.reports.map Report.event
  match found.outcome with
  | .error e => e.answer looks
  | .ok name =>
    let path := joinPath ctx.appDir name
    ⟨looks ++ [⟨.info, .tools, "Resolved build directory: " ++ path⟩],
      .ok (.buildDir name path)⟩

def DutRequest.answer (r : DutRequest) (isDir : String → Bool) : Answer :=
  let run := r.run isDir
  let events := run.notes.map DutNote.event
  match run.outcome with
  | .error e => e.answer events
  | .ok duts =>
    ⟨events ++
        [⟨.info, .tools, "Resolved parameters for " ++ toString duts.length ++ " DUTs"⟩],
      .ok (.duts duts)⟩

def Logged.answer {α : Type} (logged : Logged α) (result : α → ToolResult) : Answer :=
  match logged.outcome with
  | .error e => e.answer logged.log
  | .ok value => ⟨logged.log, .ok (result value)⟩

/-- Carries out a call. Calls depend on the defaults and the bench alone. -/
def Call.run (call : Call) (defaults : Defaults) (bench : Bench) : Answer :=
  match call with
  | .hostIp dest =>
    let dest := defaults.destFor dest
    (bench.host.ipTowards (some dest)).answer (.hostIp dest)
  | .listBuildCandidates params =>
    match defaults.contextFor params with
    | none => noAppDir
    | some ctx => ctx.candidatesAnswer
  | .logPerformance item value =>
    ⟨[performanceEvent item value], .ok (.line (performanceLine item value))⟩
  | .resolveBuildDir params =>
    match defaults.contextFor params with
    | none => noAppDir
    | some ctx => ctx.buildDirAnswer bench.isDir
  | .resolveDuts params =>
    match defaults.requestFor params with
    | none => noAppDir
    | some request => request.answer bench.isDir
  | .runnerIp console => (bench.host.linkOnConsole console).answer .link

def BuildContext.paths (ctx : BuildContext) : List String :=
  ctx.candidates.map (joinPath ctx.appDir)

def DutValues.pathsFor (v : DutValues) (count index : Nat) : List String :=
  match v.context count index with
  | .error _ => []
  | .ok ctx => ctx.paths

def DutRequest.paths (r : DutRequest) : List String :=
  match r.values with
  | .error _ => []
  | .ok values => (List.range r.count).flatMap (values.pathsFor r.count)

/-- The paths that a call may look at, whatever stands there. -/
def Call.paths (call : Call) (defaults : Defaults) : List String :=
  match call with
  | .resolveBuildDir params =>
    match defaults.contextFor params with
    | none => []
    | some ctx => ctx.paths
  | .resolveDuts params =>
    match defaults.requestFor params with
    | none => []
    | some request => request.paths
  | _ => []

/-- Answers a call by the name of the tool. Nothing is done before the parameters
are found to suit the tool. -/
def answerCall (defaults : Defaults) (bench : Bench) (name : String)
    (fields : List (String × Json)) : Answer :=
  match Tool.ofName? name with
  | none => .refused .invalidParams "tool not found"
  | some tool =>
    match tool.decode fields with
    | .error fault =>
      .refused .invalidParams ("failed to deserialize parameters: " ++ fault.message)
    | .ok call => call.run defaults bench

end DutFixtures
