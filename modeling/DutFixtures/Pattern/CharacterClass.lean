import DutFixtures.Pattern.Escape

namespace DutFixtures

/-- How deep parts of a pattern stand inside of each other when they stand side by side:
a single part is not counted, several are one level more. -/
def nestingOf : List Nat → Nat
  | [] => 0
  | [depth] => depth
  | depths => 1 + depths.foldl max 0

/-- A class that is open: what was read in front of the last operator, if there is one,
and the members behind it, all by their nesting. -/
structure OpenClass where
  operand : Option Nat := none
  members : List Nat := []
  deriving DecidableEq, Repr

def OpenClass.add (current : OpenClass) (depth : Nat) : OpenClass :=
  { current with members := depth :: current.members }

def OpenClass.nesting (current : OpenClass) : Nat :=
  match current.operand with
  | none => nestingOf current.members
  | some operand => 1 + max operand (nestingOf current.members)

def classNames : List String :=
  ["alnum", "alpha", "ascii", "blank", "cntrl", "digit", "graph", "lower", "print", "punct",
    "space", "upper", "word", "xdigit"]

/-- The name of a class between colons and in brackets, behind the bracket that opens it,
and whether it is negated. Anything else is not a name. -/
def readClassName : List Char → Option (Bool × List Char)
  | ':' :: rest =>
    let negated := rest.head? = some '^'
    let rest := if negated then rest.drop 1 else rest
    let name := rest.takeWhile (· ≠ ':')
    match rest.drop name.length with
    | ':' :: ']' :: rest =>
      if classNames.contains (String.ofList name) then some (negated, rest) else none
    | _ => none
  | _ => none

/-- The hyphens at the start of a class stand for themselves. -/
def readHyphens (flags : PatternFlags) : Nat → List Nat → List Char → List Nat × List Char
  | 0, members, cs => (members, cs)
  | fuel + 1, members, cs =>
    match flags.skip cs with
    | '-' :: rest => readHyphens flags fuel (0 :: members) rest
    | cs => (members, cs)

/-- The start of a class behind its bracket. A closing bracket that comes first stands
for itself. By bytes, no class may be negated, since it would reach beyond ASCII. -/
def readClassStart (flags : PatternFlags) (cs : List Char) : Option (OpenClass × List Char) :=
  let cs := flags.skip cs
  let negated := cs.head? = some '^'
  if negated ∧ !flags.unicode then none
  else
    let (members, rest) := readHyphens flags cs.length [] (if negated then cs.drop 1 else cs)
    match members, flags.skip rest with
    | _, [] => none
    | [], ']' :: rest => some ({ members := [0] }, rest)
    | members, rest => some ({ members }, rest)

def readMember (flags : PatternFlags) : List Char → Option (PatternEscape × List Char)
  | [] => none
  | '\\' :: rest => readEscape flags rest
  | c :: rest => some (.literal c, rest)

/-- Whether a character can be a member of a class. -/
def PatternFlags.admits (flags : PatternFlags) (c : Char) : Bool :=
  flags.unicode || c.toNat < 0x80

/-- A member of a class: a character, a class by its escape, or a range of characters in
ascending order. Places are no members. -/
def readMembers (flags : PatternFlags) (cs : List Char) : Option (List Char) :=
  match readMember flags cs with
  | none => none
  | some (first, rest) =>
    let single := match first with
      | .literal c => flags.admits c
      | .charClass => true
      | .place => false
    match flags.skip rest with
    | '-' :: behind =>
      if flags.peek behind = some ']' ∨ flags.peek behind = some '-' then
        if single then some ('-' :: behind) else none
      else
        match first, readMember flags (flags.skip behind) with
        | .literal low, some (.literal high, rest) =>
          if low ≤ high ∧ flags.admits low ∧ flags.admits high then some rest else none
        | _, _ => none
    | rest => if single then some rest else none

/-- Reads a class up to the bracket that closes it, with the classes around it, and gives
its nesting. The first argument bounds the characters that are read. -/
def readClass (flags : PatternFlags) :
    Nat → List OpenClass → OpenClass → List Char → Option (Nat × List Char)
  | 0, _, _, _ => none
  | fuel + 1, outer, current, cs =>
    let operator := fun rest =>
      readClass flags fuel outer { operand := some current.nesting } rest
    match flags.skip cs with
    | [] => none
    | '[' :: rest =>
      match readClassName rest with
      | some (negated, rest) =>
        if negated && !flags.unicode then none
        else readClass flags fuel outer (current.add 0) rest
      | none =>
        match readClassStart flags rest with
        | none => none
        | some (inner, rest) => readClass flags fuel (current :: outer) inner rest
    | ']' :: rest =>
      match outer with
      | [] => some (current.nesting, rest)
      | parent :: outer => readClass flags fuel outer (parent.add (current.nesting + 1)) rest
    | '&' :: '&' :: rest => operator rest
    | '-' :: '-' :: rest => operator rest
    | '~' :: '~' :: rest => operator rest
    | cs =>
      match readMembers flags cs with
      | none => none
      | some rest => readClass flags fuel outer (current.add 0) rest

end DutFixtures
