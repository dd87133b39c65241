import DutFixtures.Pattern.Flags

namespace DutFixtures

/-- What an escape stands for: one character, a class of characters, or a place between
two characters. -/
inductive PatternEscape where
  | literal (c : Char)
  | charClass
  | place
  deriving DecidableEq, Repr

def hexValue? (c : Char) : Option Nat :=
  if c.isDigit then some (c.toNat - '0'.toNat)
  else if 'a' ≤ c ∧ c ≤ 'f' then some (c.toNat - 'a'.toNat + 10)
  else if 'A' ≤ c ∧ c ≤ 'F' then some (c.toNat - 'A'.toNat + 10)
  else none

/-- The number written by so many hexadecimal digits, after the digits read before. -/
def readHex (flags : PatternFlags) : Nat → Nat → List Char → Option (Nat × List Char)
  | 0, value, cs => some (value, cs)
  | digits + 1, value, cs =>
    match flags.skip cs with
    | [] => none
    | c :: rest => (hexValue? c).bind fun digit => readHex flags digits (16 * value + digit) rest

/-- A character by its code. It has to be a code point of a character, and of two digits
that are read as a byte, an ASCII one. -/
def readCode (flags : PatternFlags) (digits : Nat) (cs : List Char) :
    Option (PatternEscape × List Char) :=
  match readHex flags digits 0 cs with
  | none => none
  | some (value, rest) =>
    if ¬value.isValidChar ∨ (digits = 2 ∧ !flags.unicode ∧ 0x80 ≤ value) then none
    else some (.literal (Char.ofNat value), rest)

/-- The letters that stand for a general category of characters. -/
def isCategoryLetter (c : Char) : Bool :=
  "CLMNPSZclmnpsz".toList.contains c

/-- Reads what follows a backslash. There are no back-references. Classes that reach
beyond ASCII are for characters only, and the borders of words are for bytes only, since
patterns look at no more than one byte at a time. -/
def readEscape (flags : PatternFlags) : List Char → Option (PatternEscape × List Char)
  | [] => none
  | c :: rest =>
    if c = 'x' then readCode flags 2 rest
    else if c = 'u' then readCode flags 4 rest
    else if c = 'U' then readCode flags 8 rest
    else if c = 'p' ∨ c = 'P' then
      match flags.skip rest with
      | letter :: rest =>
        if flags.unicode ∧ isCategoryLetter letter then some (.charClass, rest) else none
      | [] => none
    else if c = 'd' ∨ c = 's' ∨ c = 'w' then some (.charClass, rest)
    else if c = 'D' ∨ c = 'S' ∨ c = 'W' then
      if flags.unicode then some (.charClass, rest) else none
    else if c = 'b' ∨ c = 'B' ∨ c = '<' ∨ c = '>' then
      if flags.unicode then none else some (.place, rest)
    else if c = 'A' ∨ c = 'z' then some (.place, rest)
    else if c = 'a' then some (.literal '\x07', rest)
    else if c = 'f' then some (.literal '\x0c', rest)
    else if c = 't' then some (.literal '\t', rest)
    else if c = 'n' then some (.literal '\n', rest)
    else if c = 'r' then some (.literal '\r', rest)
    else if c = 'v' then some (.literal '\x0b', rest)
    else if c.toNat < 0x80 ∧ !c.isAlphanum then some (.literal c, rest)
    else none

end DutFixtures
