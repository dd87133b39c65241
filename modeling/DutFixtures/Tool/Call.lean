import DutFixtures.Decimal.Shortest
import DutFixtures.Text.Quoted
import DutFixtures.Tool.Catalogue

namespace DutFixtures

structure SearchParams where
  appDir : Option String := none
  target : Option String := none
  config : Option String := none
  buildDir : Option String := none
  deriving DecidableEq, Repr

structure RunParams where
  count : Option Nat := none
  appDir : Option String := none
  target : Option String := none
  config : Option String := none
  buildDir : Option String := none
  deriving DecidableEq, Repr

/-- A call of a tool with parameters that suit it. -/
inductive Call where
  | hostIp (dest : Option String)
  | listBuildCandidates (params : SearchParams)
  | logPerformance (item value : String)
  | resolveBuildDir (params : SearchParams)
  | resolveDuts (params : RunParams)
  | runnerIp (console : String)
  deriving DecidableEq, Repr

def Call.tool : Call → Tool
  | .hostIp _ => .hostIp
  | .listBuildCandidates _ => .listBuildCandidates
  | .logPerformance .. => .logPerformance
  | .resolveBuildDir _ => .resolveBuildDir
  | .resolveDuts _ => .resolveDuts
  | .runnerIp _ => .runnerIp

/-- What kind of value was met where another one was expected. Integers beyond 64
bits count as floating point numbers. -/
def Json.kind : Json → String
  | .null => "null"
  | .bool true => "boolean `true`"
  | .bool false => "boolean `false`"
  | .integer n =>
    if isWordSized n then "integer `" ++ toString n ++ "`"
    else "floating point `" ++ (Decimal.ofInt n).text ++ "`"
  | .decimal d => "floating point `" ++ d.text ++ "`"
  | .text s => "string " ++ quoted s
  | .list _ => "sequence"
  | .object _ => "map"

inductive ParameterFault where
  | wrongType (found : Json) (expected : String)
  | negative (n : Int)
  | missing (key : String)
  deriving Repr

def ParameterFault.message : ParameterFault → String
  | .wrongType found expected => "invalid type: " ++ found.kind ++ ", expected " ++ expected
  | .negative n => "invalid value: integer `" ++ toString n ++ "`, expected usize"
  | .missing key => "missing field `" ++ key ++ "`"

/-- What is wrong with a value for a parameter of the given shape, if anything. -/
def Shape.fault? : Shape → Json → Option ParameterFault
  | .text, .text _ => none
  | .text, value => some (.wrongType value "a string")
  | .optionalText, .text _ => none
  | .optionalText, .null => none
  | .optionalText, value => some (.wrongType value "a string")
  | .optionalCount, .null => none
  | .optionalCount, .integer n =>
    if !isWordSized n then some (.wrongType (.integer n) "usize")
    else if n < 0 then some (.negative n)
    else none
  | .optionalCount, value => some (.wrongType value "usize")

/-- The parameter of a fault that is met first: a value that does not suit its
parameter, in the order of the keys, and after that a key that is missing. -/
def faultIn? (parameters : List Parameter) (fields : List (String × Json)) :
    Option ParameterFault :=
  let unsuited := parameters.findSome? fun p =>
    (lookupField p.key fields).bind p.shape.fault?
  let missing := parameters.findSome? fun p =>
    if p.shape = .text ∧ (lookupField p.key fields).isNone then
      some (ParameterFault.missing p.key)
    else none
  unsuited.or missing

/-- The text of a parameter. Null and a missing key are the same. -/
def textParameter (key : String) (fields : List (String × Json)) : Option String :=
  match lookupField key fields with
  | some (.text s) => some s
  | _ => none

def countParameter (key : String) (fields : List (String × Json)) : Option Nat :=
  match lookupField key fields with
  | some (.integer n) => some n.toNat
  | _ => none

def searchParams (fields : List (String × Json)) : SearchParams where
  appDir := textParameter "app_path" fields
  target := textParameter "target" fields
  config := textParameter "config" fields
  buildDir := textParameter "build_dir" fields

def runParams (fields : List (String × Json)) : RunParams where
  count := countParameter "count" fields
  appDir := textParameter "app_path" fields
  target := textParameter "target" fields
  config := textParameter "config" fields
  buildDir := textParameter "build_dir" fields

/-- The call that fields without a fault stand for. Fields that the tool does not
know are not looked at. -/
def Tool.call (tool : Tool) (fields : List (String × Json)) : Call :=
  match tool with
  | .hostIp => .hostIp (textParameter "dest" fields)
  | .listBuildCandidates => .listBuildCandidates (searchParams fields)
  | .logPerformance =>
    .logPerformance ((textParameter "item" fields).getD "")
      ((textParameter "value" fields).getD "")
  | .resolveBuildDir => .resolveBuildDir (searchParams fields)
  | .resolveDuts => .resolveDuts (runParams fields)
  | .runnerIp => .runnerIp ((textParameter "console" fields).getD "")

/-- Checks all parameters of a call before anything is done. -/
def Tool.decode (tool : Tool) (fields : List (String × Json)) : Except ParameterFault Call :=
  match faultIn? tool.parameters fields with
  | some fault => .error fault
  | none => .ok (tool.call fields)

end DutFixtures
