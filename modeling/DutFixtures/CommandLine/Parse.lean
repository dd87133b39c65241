import DutFixtures.CommandLine.Option
import DutFixtures.Defaults

namespace DutFixtures

/-- The form of a word of the command line. -/
inductive Word where
  /-- Two dashes alone, after which no options follow. -/
  | endOfOptions
  | long (name : String) (value : Option String)
  | short (letter : Char)
  | plain (text : String)
  deriving DecidableEq, Repr

/-- A long option ends at its first equals sign, behind which its value stands.
A single dash is a plain word. -/
def Word.ofString (s : String) : Word :=
  match s.toList with
  | ['-', '-'] => .endOfOptions
  | '-' :: '-' :: cs =>
    let name := String.ofList (cs.takeWhile (· ≠ '='))
    match cs.dropWhile (· ≠ '=') with
    | [] => .long name none
    | _ :: value => .long name (some (String.ofList value))
  | '-' :: c :: _ => .short c
  | _ => .plain s

/-- The options that are accepted so far, with their values. -/
abbrev Given : Type := List (Opt × String)

def Given.value? (given : Given) (o : Opt) : Option String :=
  given.lookup o

/-- Whether an option takes a value. Paths must not be empty, and the number of DUTs
must be a count. -/
def Opt.check (o : Opt) (value : String) : Except UsageError Unit :=
  match o with
  | .appDir | .logFile => if value = "" then .error (.valueMissing o) else .ok ()
  | .dutCount =>
    match parseCount value with
    | .ok _ => .ok ()
    | .error fault => .error (.badCount value fault)
  | _ => .ok ()

/-- Adds an option. It needs a value, it must be new, and the value must suit it, in
this order. -/
def Given.add (given : Given) (o : Opt) (value : Option String) : Except UsageError Given :=
  match value with
  | none => .error (.valueMissing o)
  | some value =>
    if (given.value? o).isSome then .error (.repeated o)
    else (o.check value).map fun _ => given ++ [(o, value)]

/-- An option that is met but not accepted yet, with its value if that is met too. -/
abbrev Pending : Type := Option (Opt × Option String)

/-- Accepts the option that is waiting, if there is one. -/
def Given.settle (given : Given) : Pending → Except UsageError Given
  | none => .ok given
  | some (o, value) => given.add o value

/-- Reads the words one after the other. An option whose value is a word of its own
waits until the next option or the end, and is checked only then: an unknown word
is reported before a bad value in front of it. -/
def readWords (given : Given) (pending : Pending) : List String → Except UsageError Given
  | [] => given.settle pending
  | word :: rest =>
    match Word.ofString word with
    | .endOfOptions => if rest.isEmpty then given.settle pending else .error .unknownArgument
    | .long name value =>
      match Opt.ofName? name with
      | some o =>
        match given.settle pending with
        | .error e => .error e
        | .ok given =>
          match value with
          | none => readWords given (some (o, none)) rest
          | some _ =>
            match given.add o value with
            | .error e => .error e
            | .ok given => readWords given none rest
      | none =>
        if name = "help" ∨ name = "version" then
          if value.isSome then .error .tooManyValues
          else
            match given.settle pending with
            | .error e => .error e
            | .ok _ => .error (if name = "help" then .help else .version)
        else .error .unknownArgument
    | .short letter =>
      if letter = 'h' ∨ letter = 'V' then
        match given.settle pending with
        | .error e => .error e
        | .ok _ => .error (if letter = 'h' then .help else .version)
      else .error .unknownArgument
    | .plain text =>
      match pending with
      | some (o, none) => readWords given (some (o, some text)) rest
      | _ => .error .unknownArgument

/-- What the command line asks for. -/
structure Options where
  appDir : Option String := none
  target : Option String := none
  config : Option String := none
  buildDir : Option String := none
  dutCount : Nat := 1
  probeDest : Option String := none
  logLevel : String := "info"
  logFile : Option String := none
  deriving DecidableEq, Repr

/-- An option that is not given is absent, or has its default value. -/
def Given.options (given : Given) : Options where
  appDir := given.value? .appDir
  target := given.value? .target
  config := given.value? .config
  buildDir := given.value? .buildDir
  dutCount :=
    match (given.value? .dutCount).map parseCount with
    | some (.ok count) => count
    | _ => 1
  probeDest := given.value? .probeDest
  logLevel := (given.value? .logLevel).getD "info"
  logFile := given.value? .logFile

/-- The part of the options that the tools use. -/
def Options.defaults (o : Options) : Defaults :=
  ⟨o.appDir, o.target, o.config, o.buildDir, o.dutCount, o.probeDest⟩

/-- Reads a command line, without the name of the program. -/
def Options.parse (argv : List String) : Except UsageError Options :=
  (readWords [] none argv).map Given.options

end DutFixtures
