import DutFixtures.Text.Quoted

namespace DutFixtures

/-- The values that the tools use where a call gives none. -/
structure Defaults where
  /-- The application path as Unicode text. A path on the command line that is no such text is
  not covered, and what is shown of this one is the text itself. -/
  appDir : Option String := none
  target : Option String := none
  config : Option String := none
  buildDir : Option String := none
  dutCount : Nat := 1
  probeDest : Option String := none
  deriving DecidableEq, Repr

/-- The defaults on one line of the log. -/
def Defaults.shown (d : Defaults) : String :=
  "Config \x7b app_path: " ++ shownOption quoted d.appDir ++
    ", target: " ++ shownOption quoted d.target ++
    ", config: " ++ shownOption quoted d.config ++
    ", build_dir: " ++ shownOption quoted d.buildDir ++
    ", dut_count: " ++ toString d.dutCount ++
    ", probe_dest: " ++ shownOption quoted d.probeDest ++ " \x7d"

end DutFixtures
