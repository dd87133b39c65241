import DutFixtures.Event
import DutFixtures.LogFilter.FieldTest
import DutFixtures.Text.Bytes

namespace DutFixtures

/-- One rule of a log filter. The components whose path starts with the target write
events up to a level, or none. A rule without a target holds for all components, one
with a span only inside of that span, one with a field only for events that have it. -/
structure LogRule where
  target : Option String := none
  span : Option String := none
  field : Option FieldTest := none
  level : Option Level
  deriving DecidableEq, Repr

/-- The number at the start of a level list stands for the level; zero is off. -/
def levelOfNumber : List Char → Option (Option Level)
  | ['0'] => some none
  | ['1'] => some (some .error)
  | ['2'] => some (some .warn)
  | ['3'] => some (some .info)
  | ['4'] => some (some .debug)
  | ['5'] => some (some .trace)
  | _ => none

/-- Drops one plus sign and the zeros in front of the last digit. -/
def bareNumber (cs : List Char) : List Char :=
  let digits := match cs with
    | '+' :: rest => rest
    | cs => cs
  match digits.dropWhile (· = '0') with
  | [] => if digits.isEmpty then [] else ['0']
  | rest => rest

/-- The name or the number of a level; letters of either case. -/
def level? (cs : List Char) : Option (Option Level) :=
  match levelOfNumber (bareNumber cs) with
  | some level => some level
  | none =>
    let name := String.ofList (cs.map Char.toLower)
    if name = "error" ∨ name = "" then some (some .error)
    else if name = "warn" then some (some .warn)
    else if name = "info" then some (some .info)
    else if name = "debug" then some (some .debug)
    else if name = "trace" then some (some .trace)
    else if name = "off" then some none
    else none

/-- Why a rule does not count. -/
inductive RuleFault where
  /-- The rule is left out. -/
  | malformed
  /-- An offset at which the rule is cut lies inside of a character. That stops the
  program. -/
  | splitsCharacter
  deriving DecidableEq, Repr

/-- The bytes of a text from one offset to another, or to its end. -/
def bytesBetween (cs : List Char) (start : Nat) (stop : Option Nat) :
    Except RuleFault (List Char) :=
  let part := match stop with
    | none => dropBytes? start cs
    | some stop => (dropBytes? start cs).bind (takeBytes? (stop - start))
  match part with
  | some part => .ok part
  | none => .error .splitsCharacter

/-- The parts of a rule `target[span{field}]=level` as they are written. A rule without
any of the marks is a single word. -/
inductive RuleParts where
  | word (text : List Char)
  | parts (target span : Option (List Char)) (field : Option FieldTest)
      (level : Option (List Char))
  deriving DecidableEq, Repr

/-- What follows a bracket that is closed, at its offset: a level behind an equals sign,
or nothing. -/
def levelPart (given : List Char) (offset : Nat) :
    List Char → Except RuleFault (Option (List Char))
  | [] => .ok none
  | '=' :: _ => (bytesBetween given (offset + 1) none).map some
  | _ => .error .malformed

/-- The parts that a bracket opens, and what follows them. `offset` is that of the text
behind the bracket. -/
def bracketParts (given : List Char) (target : Option (List Char)) (offset : Nat)
    (cs : List Char) : Except RuleFault RuleParts := do
  let name := cs.takeWhile fun c => c ≠ ']' ∧ c ≠ '\x7b'
  let nameEnd := offset + byteCount name
  match cs.drop name.length with
  | ']' :: rest =>
    let span ← bytesBetween given offset (some nameEnd)
    let level ← levelPart given (nameEnd + 1) rest
    return .parts target (some span) none level
  | '\x7b' :: rest =>
    let span ← bytesBetween given offset (some nameEnd)
    let text := rest.takeWhile (· ≠ '\x7d')
    let textEnd := nameEnd + 1 + byteCount text
    match rest.drop text.length with
    | '\x7d' :: rest =>
      match FieldTest.ofChars? (← bytesBetween given (nameEnd + 1) (some textEnd)), rest with
      | some field, ']' :: rest =>
        let level ← levelPart given (textEnd + 2) rest
        return .parts target (if span = [] then none else some span) (some field) level
      | _, _ => .error .malformed
    | _ => .error .malformed
  | _ => .error .malformed

/-- Whether a rule may start with a character. -/
def startsRule (c : Char) : Bool :=
  isAlphanumeric c || c == '-' || c == ':' || c == '_' || c == '['

/-- Takes a rule apart. The marks are looked for in the rule without the blanks at its
ends, but their offsets are applied to the rule as it is given. So blanks at the end
belong to the last part, and each byte of a blank in front moves all parts by one. -/
def RuleParts.ofChars (given : List Char) : Except RuleFault RuleParts := do
  let cs := trimChars given
  let target := cs.takeWhile fun c => c ≠ '=' ∧ c ≠ '['
  let size := byteCount target
  if cs.head?.any startsRule then
    match cs.drop target.length with
    | '=' :: _ =>
      let target ← bytesBetween given 0 (some size)
      let level ← bytesBetween given (size + 1) none
      return .parts (some target) none none (some level)
    | _ :: rest =>
      if target = [] then bracketParts given none 1 rest
      else
        let target ← bytesBetween given 0 (some size)
        bracketParts given (some target) (size + 1) rest
    | [] => return .word given
  else .error .malformed

/-- The rule that the parts make up. A level that is left out lets everything through. A
word is a level for all components, if it names one, and a target else. -/
def RuleParts.rule? : RuleParts → Option LogRule
  | .word text =>
    match level? text with
    | some level => some { level }
    | none => some { target := some (String.ofList text), level := some .trace }
  | .parts target span field level =>
    let limit := match level with
      | none | some [] => some (some Level.trace)
      | some name => level? name
    limit.map fun level =>
      { target := target.map String.ofList, span := span.map String.ofList, field, level }

def LogRule.ofChars (given : List Char) : Except RuleFault LogRule := do
  match (← RuleParts.ofChars given).rule? with
  | some rule => return rule
  | none => .error .malformed

end DutFixtures
