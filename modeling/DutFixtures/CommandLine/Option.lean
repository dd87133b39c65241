import DutFixtures.CommandLine.Count
import DutFixtures.Text.Terminal

namespace DutFixtures

/-- The options of the command line that take a value. -/
inductive Opt where
  | appDir
  | target
  | config
  | buildDir
  | dutCount
  | probeDest
  | logLevel
  | logFile
  deriving DecidableEq, Repr

def Opt.all : List Opt :=
  [.appDir, .target, .config, .buildDir, .dutCount, .probeDest, .logLevel, .logFile]

def Opt.name : Opt → String
  | .appDir => "app-path"
  | .target => "target"
  | .config => "config"
  | .buildDir => "build-dir"
  | .dutCount => "dut-count"
  | .probeDest => "probe-dest"
  | .logLevel => "log-level"
  | .logFile => "log-file"

def Opt.ofName? (name : String) : Option Opt :=
  Opt.all.find? fun o => o.name = name

def Opt.valueName : Opt → String
  | .appDir => "APP_PATH"
  | .target => "TARGET"
  | .config => "CONFIG"
  | .buildDir => "BUILD_DIR"
  | .dutCount => "DUT_COUNT"
  | .probeDest => "PROBE_DEST"
  | .logLevel => "LOG_LEVEL"
  | .logFile => "LOG_FILE"

def Opt.shown (o : Opt) : String :=
  "--" ++ o.name ++ " <" ++ o.valueName ++ ">"

/-- Why a command line does not lead to a run. Asking for the help text or the
version is among the reasons. -/
inductive UsageError where
  | unknownArgument
  | tooManyValues
  | valueMissing (o : Opt)
  | repeated (o : Opt)
  | badCount (value : String) (fault : CountFault)
  | help
  | version
  deriving DecidableEq, Repr

def Opt.help : Opt → String
  | .appDir => "Default application path holding the build directories"
  | .target =>
    "Default target chip; use '|' to give one value per DUT (e.g. \"esp32|esp32s3\")"
  | .config => "Default build configuration name; '|' separates per-DUT values"
  | .buildDir => "Explicit build directory, checked before any generated candidate"
  | .dutCount => "Number of DUTs in a multi-DUT run [default: 1]"
  | .probeDest => "Destination used to pick the outbound interface when none is given"
  | .logLevel => "Log level (error, warn, info, debug, trace) [default: info]"
  | .logFile => "Log file path (defaults to stderr)"

def programName : String := "mqtt-test-fixtures"

def programVersion : String := "0.1.0"

def versionText : String := programName ++ " " ++ programVersion ++ "\n"

/-- One line of the list of options, with the explanations in one column. -/
def helpLine (left right : String) : String :=
  let gap := 33 - (left.length + 2)
  "  " ++ left ++ String.ofList (List.replicate gap ' ') ++ right ++ "\n"

def helpText : String :=
  "MCP server exposing fixture helpers for on-target MQTT client tests\n\n" ++
    "Usage: " ++ programName ++ " [OPTIONS]\n\nOptions:\n" ++
    String.join (Opt.all.map fun o => helpLine ("    " ++ o.shown) o.help) ++
    helpLine "-h, --help" "Print help" ++ helpLine "-V, --version" "Print version"

/-- The first line of the message for a command line that cannot be used. -/
def UsageError.headline : UsageError → Option String
  | .unknownArgument => none
  | .tooManyValues => none
  | .valueMissing o =>
    some ("error: a value is required for '" ++ o.shown ++ "' but none was supplied")
  | .repeated o =>
    some ("error: the argument '" ++ o.shown ++ "' cannot be used multiple times")
  | .badCount value fault =>
    let shown := String.ofList (plainText .text value.toList)
    let line := "error: invalid value '" ++ shown ++ "' for '" ++ Opt.dutCount.shown ++ "': " ++
      fault.message
    some (String.ofList (firstLine line.toList))
  | .help => none
  | .version => none

/-- What is printed for a command line that asks for it. -/
def UsageError.printed : UsageError → Option String
  | .help => some helpText
  | .version => some versionText
  | _ => none

/-- The exit code of the program for a command line that does not lead to a run. -/
def UsageError.exitCode (e : UsageError) : Nat :=
  if e.printed.isSome then 0 else 2

end DutFixtures
