namespace DutFixtures

/-- The levels of log events, the most severe first. -/
inductive Level where
  | error
  | warn
  | info
  | debug
  | trace
  deriving DecidableEq, Repr

def Level.label : Level → String
  | .error => "ERROR"
  | .warn => "WARN"
  | .info => "INFO"
  | .debug => "DEBUG"
  | .trace => "TRACE"

/-- How much a level lets through: each level includes those before it. -/
def Level.rank : Level → Nat
  | .error => 1
  | .warn => 2
  | .info => 3
  | .debug => 4
  | .trace => 5

/-- The parts of the program that write log events. -/
inductive Component where
  | program
  | buildDir
  | dut
  | network
  | performance
  | tools
  deriving DecidableEq, Repr

/-- The name under which a log filter selects the events of a component. -/
def Component.path : Component → String
  | .program => "mqtt_test_fixtures"
  | .buildDir => "mqtt_test_fixtures::build_dir"
  | .dut => "mqtt_test_fixtures::dut"
  | .network => "mqtt_test_fixtures::network"
  | .performance => "mqtt_test_fixtures::performance"
  | .tools => "mqtt_test_fixtures::tools::fixture_tools"

structure Event where
  level : Level
  component : Component
  message : String
  deriving DecidableEq, Repr

/-- The event as a line of a log, without the time. -/
def Event.line (e : Event) : String :=
  e.level.label ++ " " ++ e.message

end DutFixtures
