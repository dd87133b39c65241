import DutFixtures.Text.Blank

namespace DutFixtures

/-- How a pattern is read at some place: whether it speaks of characters and not of
bytes, and whether blanks and comments in it are left out. -/
structure PatternFlags where
  unicode : Bool := true
  spaced : Bool := false
  deriving DecidableEq, Repr

/-- Leaves out blanks, and comments from a number sign to the end of its line. The flag
says whether a comment is open. -/
def skipComments : Bool → List Char → List Char
  | _, [] => []
  | true, c :: cs => skipComments (c != '\n') cs
  | false, c :: cs =>
    if isBlank c then skipComments false cs
    else if c = '#' then skipComments true cs
    else c :: cs

/-- What is read next at a place. -/
def PatternFlags.skip (flags : PatternFlags) (cs : List Char) : List Char :=
  if flags.spaced then skipComments false cs else cs

/-- The character that decides what a hyphen means. Of a comment behind the hyphen it is
the first character. -/
def PatternFlags.peek (flags : PatternFlags) (cs : List Char) : Option Char :=
  if flags.spaced then
    match cs.dropWhile isBlank with
    | '#' :: rest => (rest.dropWhile isBlank).head?.or cs.head?
    | rest => rest.head?.or cs.head?
  else cs.head?

/-- The letters of a group of flags with a hyphen in front of those that are taken back,
and the character that ends them. No letter is written twice, and a hyphen is not the
last one. -/
def readFlagLetters (seen : List Char) : List Char → Option (List Char × Char × List Char)
  | [] => none
  | c :: cs =>
    if c = ':' ∨ c = ')' then if seen.getLast? = some '-' then none else some (seen, c, cs)
    else if "imsUuRx-".toList.contains c && !seen.contains c then readFlagLetters (seen ++ [c]) cs
    else none

/-- The flag of a letter after a group of flags. -/
def flagAfter (letters : List Char) (letter : Char) (before : Bool) : Bool :=
  if letters.contains letter then (letters.takeWhile (· ≠ '-')).contains letter else before

def PatternFlags.after (flags : PatternFlags) (letters : List Char) : PatternFlags where
  unicode := flagAfter letters 'u' flags.unicode
  spaced := flagAfter letters 'x' flags.spaced

end DutFixtures
