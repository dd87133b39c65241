import DutFixtures.Event
import DutFixtures.Failure
import DutFixtures.Path

namespace DutFixtures

/-- The name of the build directory that is made when none is asked for. -/
def plainBuildDir : String := "build"

/-- What decides which directory under an application holds its build. -/
structure BuildContext where
  /-- The path of the application, a Unicode text that is shown and handed on as it is. -/
  appDir : String
  target : Option String := none
  config : Option String := none
  /-- A directory that is tried before all generated names. -/
  chosenDir : Option String := none
  deriving DecidableEq, Repr

/-- An empty text counts as an absent one. -/
def unlessEmpty (value : Option String) : Option String :=
  value.filter (· ≠ "")

/-- The names to try in order of priority, with their repetitions. -/
def BuildContext.rawCandidates (ctx : BuildContext) : List String :=
  let target := unlessEmpty ctx.target
  let config := unlessEmpty ctx.config
  let both := target.bind fun t => config.map fun c => "build_" ++ t ++ "_" ++ c
  (unlessEmpty ctx.chosenDir).toList ++ both.toList ++
    (target.map fun t => "build_" ++ t).toList ++
    (config.map fun c => "build_" ++ c).toList ++ [plainBuildDir]

/-- The names to try, each once, at the place of its highest priority. -/
def BuildContext.candidates (ctx : BuildContext) : List String :=
  ctx.rawCandidates.eraseDups

/-- The answer to a look at one directory. -/
inductive Report where
  | found (path : String)
  | missing (path : String)
  deriving DecidableEq, Repr

def Report.path : Report → String
  | .found path => path
  | .missing path => path

def Report.event : Report → Event
  | .found path => ⟨.info, .buildDir, "Found valid binary path: " ++ path⟩
  | .missing path =>
    ⟨.warn, .buildDir,
      "Checking binary path: " ++ path ++ "... missing... trying another place"⟩

/-- Looks at the names one after the other up to the first one that is a directory. -/
def firstDirectory (isDir : String → Bool) (appDir : String) :
    List String → List Report × Option String
  | [] => ([], none)
  | name :: rest =>
    let path := joinPath appDir name
    if isDir path then ([.found path], some name)
    else
      let (reports, dir) := firstDirectory isDir appDir rest
      (.missing path :: reports, dir)

/-- A search for a build directory: every look that was made, and what came of it. -/
structure Search where
  reports : List Report
  outcome : Except Failure String
  deriving Repr

/-- The build directory of a context: the first candidate that is a directory under
the application. The failure names the candidate that should have been built. -/
def BuildContext.search (ctx : BuildContext) (isDir : String → Bool) : Search :=
  let (reports, dir) := firstDirectory isDir ctx.appDir ctx.candidates
  match dir with
  | some name => ⟨reports, .ok name⟩
  | none =>
    ⟨reports, .error
      (.noValidBuildDirectory ctx.appDir (ctx.candidates.headD plainBuildDir))⟩

end DutFixtures
