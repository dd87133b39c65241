import DutFixtures.Pattern.CharacterClass
import DutFixtures.Text.Numeric

namespace DutFixtures

/-- A part of a pattern: how deep parts stand inside of it, and whether an operator behind
it may repeat it. Flags cannot be repeated. -/
structure PatternPart where
  nesting : Nat := 0
  repeatable : Bool := true
  deriving DecidableEq, Repr

/-- What was read of a group, or of a whole pattern: the nesting of the alternatives that
are complete, and the parts of the last one, in reverse. -/
structure OpenPattern where
  alternatives : List Nat := []
  parts : List PatternPart := []
  deriving DecidableEq, Repr

def OpenPattern.add (p : OpenPattern) (part : PatternPart) : OpenPattern :=
  { p with parts := part :: p.parts }

def OpenPattern.lastNesting (p : OpenPattern) : Nat :=
  nestingOf (p.parts.map PatternPart.nesting)

def OpenPattern.startAlternative (p : OpenPattern) : OpenPattern where
  alternatives := p.lastNesting :: p.alternatives
  parts := []

def OpenPattern.nesting (p : OpenPattern) : Nat :=
  nestingOf (p.lastNesting :: p.alternatives)

/-- Repeats the last part, if there is one that may be repeated. -/
def OpenPattern.repeatLast? (p : OpenPattern) : Option OpenPattern :=
  match p.parts with
  | part :: rest =>
    if part.repeatable then some { p with parts := { nesting := part.nesting + 1 } :: rest }
    else none
  | [] => none

/-- What a parenthesis opens: a group with its own flags, which may add a name, or flags
for what follows. -/
inductive Opening where
  | group (flags : PatternFlags) (name : Option (List Char))
  | flags (flags : PatternFlags)
  deriving DecidableEq, Repr

def isGroupName : List Char → Bool
  | [] => false
  | c :: cs =>
    (c == '_' || isAlphabetic c) &&
      cs.all fun c => c == '_' || c == '.' || c == '[' || c == ']' || isAlphanumeric c

/-- The name of a group up to the angle bracket that closes it. -/
def readGroupName (flags : PatternFlags) (cs : List Char) : Option (Opening × List Char) :=
  let name := cs.takeWhile (· ≠ '>')
  match cs.drop name.length with
  | [] => none
  | _ :: rest => if isGroupName name then some (.group flags (some name), rest) else none

/-- Reads what follows an opening parenthesis. Nothing looks ahead or behind. -/
def readOpening (flags : PatternFlags) (cs : List Char) : Option (Opening × List Char) :=
  match flags.skip cs with
  | '?' :: 'P' :: '<' :: rest => readGroupName flags rest
  | '?' :: '<' :: '=' :: _ => none
  | '?' :: '<' :: '!' :: _ => none
  | '?' :: '<' :: rest => readGroupName flags rest
  | '?' :: rest =>
    match readFlagLetters [] rest with
    | none => none
    | some (letters, last, rest) =>
      if last = ':' then some (.group (flags.after letters) none, rest)
      else if letters = [] then none
      else some (.flags (flags.after letters), rest)
  | rest => some (.group flags none, rest)

/-- Reads a pattern to its end, with the groups around the place and the flags that hold
behind each, and gives its nesting. No two groups have the same name. Braces repeat
nothing here: what they open cannot be closed inside of a rule. The first argument bounds
the characters that are read. -/
def readPattern : Nat → PatternFlags → List (List Char) → List (PatternFlags × OpenPattern) →
    OpenPattern → List Char → Option Nat
  | 0, _, _, _, _, _ => none
  | fuel + 1, flags, names, outer, current, cs =>
    let proceed := fun part rest => readPattern fuel flags names outer (current.add part) rest
    match flags.skip cs with
    | [] => if outer.isEmpty then some current.nesting else none
    | '(' :: rest =>
      match readOpening flags rest with
      | none => none
      | some (.flags after, rest) =>
        readPattern fuel after names outer (current.add { repeatable := false }) rest
      | some (.group inner name, rest) =>
        if name.any names.contains then none
        else readPattern fuel inner (name.toList ++ names) ((flags, current) :: outer) {} rest
    | ')' :: rest =>
      match outer with
      | [] => none
      | (before, parent) :: outer =>
        readPattern fuel before names outer (parent.add { nesting := current.nesting + 1 }) rest
    | '|' :: rest => readPattern fuel flags names outer current.startAlternative rest
    | '[' :: rest =>
      match readClassStart flags rest with
      | none => none
      | some (start, rest) =>
        match readClass flags (rest.length + 1) [] start rest with
        | none => none
        | some (depth, rest) => proceed { nesting := depth + 1 } rest
    | '\x7b' :: _ => none
    | '\\' :: rest =>
      match readEscape flags rest with
      | none => none
      | some (_, rest) => proceed {} rest
    | '.' :: rest => if flags.unicode then proceed {} rest else none
    | c :: rest =>
      if c = '?' ∨ c = '*' ∨ c = '+' then
        match current.repeatLast? with
        | none => none
        | some repeated =>
          let rest := if rest.head? = some '?' then rest.drop 1 else rest
          readPattern fuel flags names outer repeated rest
      else proceed {} rest

/-- The deepest nesting of a pattern. -/
def maxNesting : Nat := 250

/-- Whether a text is a regular expression of the dialect in which filters compare the
values of fields: one that a finite automaton can follow byte by byte. -/
def isPattern (cs : List Char) : Bool :=
  (readPattern (cs.length + 1) {} [] [] {} cs).any fun depth => depth ≤ maxNesting

end DutFixtures
