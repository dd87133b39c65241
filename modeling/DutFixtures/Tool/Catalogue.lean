import DutFixtures.Json.Basic

namespace DutFixtures

/-- The tools that the server offers. -/
inductive Tool where
  | hostIp
  | listBuildCandidates
  | logPerformance
  | resolveBuildDir
  | resolveDuts
  | runnerIp
  deriving DecidableEq, Repr

/-- All tools, sorted by name. -/
def Tool.all : List Tool :=
  [.hostIp, .listBuildCandidates, .logPerformance, .resolveBuildDir, .resolveDuts, .runnerIp]

def Tool.name : Tool → String
  | .hostIp => "host_ip"
  | .listBuildCandidates => "list_build_candidates"
  | .logPerformance => "log_performance"
  | .resolveBuildDir => "resolve_build_dir"
  | .resolveDuts => "resolve_duts"
  | .runnerIp => "runner_ip"

def Tool.ofName? (name : String) : Option Tool :=
  Tool.all.find? fun tool => tool.name = name

def Tool.description : Tool → String
  | .hostIp =>
    "Get the host's outbound IPv4 address used to reach a destination (e.g. the DUT's IP). No traffic is sent."
  | .listBuildCandidates =>
    "List the build directory candidates for an application in priority order: explicit build_dir, build_<target>_<config>, build_<target>, build_<config>, build. Does not touch the filesystem."
  | .logPerformance =>
    "Emit a performance result line in the '[Performance][item]: value' format picked up by CI log scrapers."
  | .resolveBuildDir =>
    "Resolve which build directory holds the artifacts to flash. Returns the first existing candidate; fails with the idf.py command to run when none exists."
  | .resolveDuts =>
    "Resolve target, config and build directory for each DUT of a multi-DUT run. Values may hold one entry per DUT separated by '|'; a single entry applies to all DUTs. Config defaults to 'default'."
  | .runnerIp =>
    "Find the DUT's IPv4 address in its console output ('IPv4 address: a.b.c.d') and the host address reachable from it."

/-- What a parameter of a tool may hold. An optional one may be left out or null. -/
inductive Shape where
  | text
  | optionalText
  | optionalCount
  deriving DecidableEq, Repr

structure Parameter where
  key : String
  shape : Shape
  description : String
  deriving DecidableEq, Repr

/-- The parameters of a tool, sorted by key. -/
def Tool.parameters : Tool → List Parameter
  | .hostIp =>
    [⟨"dest", .optionalText,
      "Destination the DUT network is reached through (default: --probe-dest or 8.8.8.8)"⟩]
  | .listBuildCandidates | .resolveBuildDir =>
    [⟨"app_path", .optionalText, "Application path (default: --app-path)"⟩,
      ⟨"build_dir", .optionalText,
        "Explicit build directory checked first (default: --build-dir)"⟩,
      ⟨"config", .optionalText, "Build configuration name (default: --config)"⟩,
      ⟨"target", .optionalText,
        "Target chip (e.g., \"esp32\", \"esp32s3\") (default: --target)"⟩]
  | .logPerformance =>
    [⟨"item", .text, "Measured item name"⟩,
      ⟨"value", .text, "Measured value, including unit"⟩]
  | .resolveDuts =>
    [⟨"app_path", .optionalText,
      "Application path(s), '|' separated per DUT (default: --app-path)"⟩,
      ⟨"build_dir", .optionalText,
        "Explicit build directories, '|' separated per DUT (default: --build-dir)"⟩,
      ⟨"config", .optionalText, "Config(s), '|' separated per DUT (default: --config)"⟩,
      ⟨"count", .optionalCount, "Number of DUTs (default: --dut-count)"⟩,
      ⟨"target", .optionalText, "Target(s), '|' separated per DUT (default: --target)"⟩]
  | .runnerIp =>
    [⟨"console", .text,
      "Captured DUT console output containing an \"IPv4 address: \" line"⟩]

/-- The name under which the parameters of a tool are described. -/
def Tool.schemaTitle : Tool → String
  | .hostIp => "HostIpArgs"
  | .listBuildCandidates | .resolveBuildDir => "BuildDirArgs"
  | .logPerformance => "LogPerformanceArgs"
  | .resolveDuts => "ResolveDutsArgs"
  | .runnerIp => "RunnerIpArgs"

def Parameter.schema (p : Parameter) : Json :=
  match p.shape with
  | .text => .object [("description", .text p.description), ("type", .text "string")]
  | .optionalText =>
    .object [("default", .null), ("description", .text p.description), ("nullable", .bool true),
      ("type", .text "string")]
  | .optionalCount =>
    .object [("default", .null), ("description", .text p.description), ("format", .text "uint"),
      ("minimum", .integer 0), ("nullable", .bool true), ("type", .text "integer")]

/-- The keys that a call must hold. -/
def Tool.requiredKeys (tool : Tool) : List String :=
  (tool.parameters.filter fun p => p.shape = .text).map Parameter.key

def Tool.schema (tool : Tool) : Json :=
  let required :=
    if tool.requiredKeys.isEmpty then []
    else [("required", Json.list (tool.requiredKeys.map Json.text))]
  .object
    ([("$schema", .text "http://json-schema.org/draft-07/schema#"),
      ("properties", .object (tool.parameters.map fun p => (p.key, p.schema)))] ++ required ++
      [("title", .text tool.schemaTitle), ("type", .text "object")])

def Tool.entry (tool : Tool) : Json :=
  .object [("name", .text tool.name), ("description", .text tool.description),
    ("inputSchema", tool.schema)]

/-- The description of all tools. -/
def toolCatalogue : Json :=
  .object [("tools", .list (Tool.all.map Tool.entry))]

end DutFixtures
