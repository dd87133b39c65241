import DutFixtures.BuildSearch
import DutFixtures.Text.Blank
import DutFixtures.Text.Quoted

namespace DutFixtures

/-- The character between the values of the DUTs of one run. -/
def dutSeparator : Char := '|'

/-- The configuration of a DUT for which none is given. -/
def fallbackConfig : String := "default"

/-- The parameters of a run of several DUTs, as they are given: each text holds one
value for all DUTs or one for each. -/
structure DutRequest where
  count : Nat
  appDir : String
  target : Option String := none
  config : Option String := none
  buildDir : Option String := none
  deriving DecidableEq, Repr

structure ResolvedDut where
  index : Nat
  appDir : String
  target : Option String
  config : String
  buildDir : String
  deriving DecidableEq, Repr

/-- The parts of a text between separators, each without blanks at its ends. -/
def dutParts (value : String) : List String :=
  (value.toList.splitOn dutSeparator).map fun part => trim (String.ofList part)

/-- The values of a field for each DUT. A single value serves all of them. -/
def splitPerDut (field value : String) (count : Nat) : Except Failure (List String) :=
  if count = 0 then .error .noDut
  else if dutLimit < count then .error (.tooManyDuts count)
  else
    match dutParts value with
    | [part] => .ok (List.replicate count part)
    | parts =>
      if parts.length = count then .ok parts
      else .error (.dutCountMismatch field count parts.length)

/-- The values of an optional field. Empty ones are absent. -/
def splitIfGiven (field : String) (value : Option String) (count : Nat) :
    Except Failure (List (Option String)) :=
  match value with
  | none => .ok (List.replicate count none)
  | some text =>
    (splitPerDut field text count).map fun parts => parts.map fun part => unlessEmpty (some part)

def effectiveConfig (config : Option String) : String :=
  (unlessEmpty config).getD fallbackConfig

/-- The target of a DUT. A run of a single DUT takes the first target. -/
def pickTarget (targets : List String) (total index : Nat) : Except Failure String :=
  match targets[if total = 1 then 0 else index]? with
  | some target => .ok target
  | none => .error (.noTarget index targets.length)

structure DutValues where
  appDirs : List String
  targets : Option (List String)
  configs : List (Option String)
  buildDirs : List (Option String)
  deriving DecidableEq, Repr

/-- Splits all fields. The first one that has a wrong number of values is reported,
and nothing is looked at in the file system before that. -/
def DutRequest.values (r : DutRequest) : Except Failure DutValues := do
  let appDirs ← splitPerDut "app_path" r.appDir r.count
  let targets ← r.target.mapM fun value => splitPerDut "target" value r.count
  let configs ← splitIfGiven "config" r.config r.count
  let buildDirs ← splitIfGiven "build_dir" r.buildDir r.count
  return ⟨appDirs, targets, configs, buildDirs⟩

def DutValues.configOf (v : DutValues) (index : Nat) : String :=
  effectiveConfig (v.configs.getD index none)

/-- What is searched for one DUT of a run. -/
def DutValues.context (v : DutValues) (count index : Nat) : Except Failure BuildContext := do
  let target ← v.targets.mapM fun targets => pickTarget targets count index
  return {
    appDir := v.appDirs.getD index ""
    target := unlessEmpty target
    config := some (v.configOf index)
    chosenDir := v.buildDirs.getD index none }

/-- What happens in a run: looks at directories, and DUTs that are done. -/
inductive DutNote where
  | looked (report : Report)
  | resolved (dut : ResolvedDut)
  deriving DecidableEq, Repr

def DutNote.report? : DutNote → Option Report
  | .looked report => some report
  | .resolved _ => none

def DutNote.event : DutNote → Event
  | .looked report => report.event
  | .resolved dut =>
    ⟨.debug, .dut,
      "DUT " ++ toString dut.index ++ ": target=" ++ shownOption quoted dut.target ++
        " config=" ++ dut.config ++ " build_dir=" ++ dut.buildDir⟩

/-- A run over several DUTs: its notes in order, and what came of it. -/
structure DutRun where
  notes : List DutNote
  outcome : Except Failure (List ResolvedDut)
  deriving Repr

def DutRun.reports (run : DutRun) : List Report :=
  run.notes.filterMap DutNote.report?

/-- Resolves the DUTs with the given indices in order and stops at the first failure. -/
def DutValues.run (v : DutValues) (isDir : String → Bool) (count : Nat) : List Nat → DutRun
  | [] => ⟨[], .ok []⟩
  | index :: rest =>
    match v.context count index with
    | .error e => ⟨[], .error e⟩
    | .ok ctx =>
      let found := ctx.search isDir
      let looks := found.reports.map DutNote.looked
      match found.outcome with
      | .error e => ⟨looks, .error e⟩
      | .ok dir =>
        let dut : ResolvedDut := ⟨index, ctx.appDir, ctx.target, v.configOf index, dir⟩
        let later := v.run isDir count rest
        ⟨looks ++ .resolved dut :: later.notes, later.outcome.map fun duts => dut :: duts⟩

/-- Target, configuration and build directory of every DUT of a run. -/
def DutRequest.run (r : DutRequest) (isDir : String → Bool) : DutRun :=
  match r.values with
  | .error e => ⟨[], .error e⟩
  | .ok values => values.run isDir r.count (List.range r.count)

end DutFixtures
