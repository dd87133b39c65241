namespace DutFixtures

/-- Why a fixture helper fails. -/
inductive Failure where
  | noValidBuildDirectory (appDir firstCandidate : String)
  | dutCountMismatch (field : String) (expected found : Nat)
  | dutIpNotFound
  | noIpv4Address (reason : String)
  | invalidParameter (reason : String)
  /-- A failure of the operating system, with its text. -/
  | host (text : String)
  | serialization (text : String)
  deriving DecidableEq, Repr

/-- The largest number of DUTs in one run. -/
def dutLimit : Nat := 64

def Failure.noDut : Failure :=
  .invalidParameter "DUT count must be at least 1"

def Failure.tooManyDuts (count : Nat) : Failure :=
  .invalidParameter
    ("DUT count " ++ toString count ++ " exceeds the maximum of " ++ toString dutLimit)

def Failure.noTarget (index configured : Nat) : Failure :=
  .invalidParameter
    ("no target for DUT " ++ toString index ++ " (" ++ toString configured ++
      " targets configured)")

def Failure.message : Failure → String
  | .noValidBuildDirectory appDir first =>
    "No valid build directory under " ++ appDir ++ ". Please build the binary via \"idf.py -B " ++
      first ++ " build\" and run the tests again"
  | .dutCountMismatch field expected found =>
    "Multi-DUT value for '" ++ field ++ "' has " ++ toString found ++ " entries, expected 1 or " ++
      toString expected
  | .dutIpNotFound => "No 'IPv4 address: ' line found in DUT output"
  | .noIpv4Address reason => "No IPv4 address available: " ++ reason
  | .invalidParameter reason => "Invalid parameter: " ++ reason
  | .host text => "IO error: " ++ text
  | .serialization text => "Serialization error: " ++ text

/-- Whether the caller can mend the failure by other parameters or a build, as
opposed to a failure of the host. -/
def Failure.blamesCaller : Failure → Bool
  | .noValidBuildDirectory .. => true
  | .dutCountMismatch .. => true
  | .dutIpNotFound => true
  | .invalidParameter _ => true
  | .noIpv4Address _ => false
  | .host _ => false
  | .serialization _ => false

end DutFixtures
