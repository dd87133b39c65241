import DutFixtures.Ipv4

namespace DutFixtures

def isHexGroup (cs : List Char) : Bool :=
  1 ≤ cs.length && cs.length ≤ 4 &&
    cs.all fun c => ('0' ≤ c && c ≤ '9') || ('a' ≤ c && c ≤ 'f') || ('A' ≤ c && c ≤ 'F')

/-- How many groups of 16 bits stand between the colons. At the end a dotted IPv4
address may take the place of two of them, if that is allowed. -/
def groupCount (dotted : Bool) : List (List Char) → Option Nat
  | [] => some 0
  | [last] =>
    if isHexGroup last then some 1
    else if dotted ∧ (Ipv4.ofChars? last).isSome then some 2
    else none
  | group :: rest => if isHexGroup group then (groupCount dotted rest).map (· + 1) else none

def groupsOf (dotted : Bool) (cs : List Char) : Option Nat :=
  if cs.isEmpty then some 0 else groupCount dotted (cs.splitOn ':')

/-- The text before the first pair of colons and the text after it. -/
def cutAtGap : List Char → Option (List Char × List Char)
  | ':' :: ':' :: rest => some ([], rest)
  | c :: rest => (cutAtGap rest).map fun (before, after) => (c :: before, after)
  | [] => none

/-- Whether a text is an IPv6 address: eight groups, or fewer with one pair of
colons that stands for at least one group of zeros. -/
def isIpv6 (s : String) : Bool :=
  match cutAtGap s.toList with
  | none => !s.toList.isEmpty && groupsOf true s.toList == some 8
  | some (before, after) =>
    match groupsOf false before, groupsOf true after with
    | some m, some n => m + n ≤ 7
    | _, _ => false

end DutFixtures
