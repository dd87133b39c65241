namespace DutFixtures

/-- Why a text is not a count. -/
inductive CountFault where
  | empty
  | invalidDigit
  | tooLarge
  deriving DecidableEq, Repr

def CountFault.message : CountFault → String
  | .empty => "cannot parse integer from empty string"
  | .invalidDigit => "invalid digit found in string"
  | .tooLarge => "number too large to fit in target type"

/-- Counts are less than this. -/
def countLimit : Nat := Nat.pow 2 64

/-- Reads digits behind a number that is read already, up to the first fault. -/
def countDigits (value : Nat) : List Char → Except CountFault Nat
  | [] => .ok value
  | c :: cs =>
    if c.isDigit then
      let next := 10 * value + (c.toNat - '0'.toNat)
      if next < countLimit then countDigits next cs else .error .tooLarge
    else .error .invalidDigit

/-- Reads ASCII digits, of which there is at least one. -/
def countFrom (cs : List Char) : Except CountFault Nat :=
  match cs with
  | [] => .error .invalidDigit
  | _ :: _ => countDigits 0 cs

/-- Reads a count of 64 bits. One plus sign may stand in front of the digits. -/
def parseCount (s : String) : Except CountFault Nat :=
  match s.toList with
  | [] => .error .empty
  | '+' :: digits => countFrom digits
  | digits => countFrom digits

end DutFixtures
