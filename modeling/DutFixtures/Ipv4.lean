namespace DutFixtures

/-- An IPv4 address. -/
structure Ipv4 where
  a : UInt8
  b : UInt8
  c : UInt8
  d : UInt8
  deriving DecidableEq, Repr

def octetText (n : UInt8) : List Char :=
  Nat.toDigits 10 n.toNat

def Ipv4.chars (ip : Ipv4) : List Char :=
  octetText ip.a ++ '.' :: (octetText ip.b ++ '.' :: (octetText ip.c ++ '.' :: octetText ip.d))

/-- The dotted decimal text of an address. -/
def Ipv4.text (ip : Ipv4) : String :=
  String.ofList ip.chars

/-- One to three ASCII digits, not more than 255 and without a leading zero. -/
def octet? (cs : List Char) : Option UInt8 :=
  let n := Nat.ofDigitChars 10 cs 0
  if cs = [] ∨ 3 < cs.length ∨ cs.all Char.isDigit = false then none
  else if cs.head? = some '0' ∧ 1 < cs.length then none
  else if n < 256 then some (UInt8.ofNat n)
  else none

/-- Reads a dotted decimal text, and nothing but the text of an address. -/
def Ipv4.ofChars? (cs : List Char) : Option Ipv4 :=
  match cs.splitOn '.' with
  | [a, b, c, d] => do return ⟨← octet? a, ← octet? b, ← octet? c, ← octet? d⟩
  | _ => none

def Ipv4.parse? (s : String) : Option Ipv4 :=
  ofChars? s.toList

end DutFixtures
