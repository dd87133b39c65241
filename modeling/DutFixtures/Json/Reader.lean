import DutFixtures.Json.Basic

namespace DutFixtures

def isJsonBlank (c : Char) : Bool :=
  c == ' ' || c == '\t' || c == '\n' || c == '\r'

def skipBlanks (cs : List Char) : List Char :=
  cs.dropWhile isJsonBlank

def hexDigit? (c : Char) : Option Nat :=
  if '0' ≤ c ∧ c ≤ '9' then some (c.toNat - '0'.toNat)
  else if 'a' ≤ c ∧ c ≤ 'f' then some (c.toNat - 'a'.toNat + 10)
  else if 'A' ≤ c ∧ c ≤ 'F' then some (c.toNat - 'A'.toNat + 10)
  else none

/-- The number written by four hexadecimal digits. -/
def hexQuad? (a b c d : Char) : Option Nat := do
  let a ← hexDigit? a
  let b ← hexDigit? b
  let c ← hexDigit? c
  let d ← hexDigit? d
  return ((a * 16 + b) * 16 + c) * 16 + d

/-- The rest of a text after its opening quotation mark, with what follows it.
Characters beyond the basic plane may be written as two halves; a half that
stands alone is refused, as are control characters that are not escaped. -/
def readText : List Char → List Char → Option (String × List Char)
  | '"' :: rest, done => some (String.ofList done.reverse, rest)
  | '\\' :: 'u' :: a :: b :: c :: d :: rest, done =>
    match hexQuad? a b c d with
    | none => none
    | some unit =>
      if unit < 0xD800 ∨ 0xE000 ≤ unit then readText rest (Char.ofNat unit :: done)
      else if 0xDC00 ≤ unit then none
      else
        match rest with
        | '\\' :: 'u' :: a :: b :: c :: d :: rest =>
          match hexQuad? a b c d with
          | none => none
          | some low =>
            if 0xDC00 ≤ low ∧ low < 0xE000 then
              readText rest
                (Char.ofNat (0x10000 + (unit - 0xD800) * 0x400 + (low - 0xDC00)) :: done)
            else none
        | _ => none
  | '\\' :: c :: rest, done =>
    match c with
    | '"' => readText rest ('"' :: done)
    | '\\' => readText rest ('\\' :: done)
    | '/' => readText rest ('/' :: done)
    | 'b' => readText rest ('\x08' :: done)
    | 'f' => readText rest ('\x0c' :: done)
    | 'n' => readText rest ('\n' :: done)
    | 'r' => readText rest ('\r' :: done)
    | 't' => readText rest ('\t' :: done)
    | _ => none
  | c :: rest, done => if c.toNat < 0x20 then none else readText rest (c :: done)
  | [], _ => none

/-- An optional sign in front of a number. -/
def readMinus : List Char → Bool × List Char
  | '-' :: rest => (true, rest)
  | cs => (false, cs)

/-- The digits after a point, if there is a point. At least one must follow it. -/
def readFraction : List Char → Option (List Char × List Char)
  | '.' :: rest =>
    match rest.takeWhile Char.isDigit with
    | [] => none
    | digits => some (digits, rest.dropWhile Char.isDigit)
  | cs => some ([], cs)

def readExponentDigits (negative : Bool) (cs : List Char) : Option (Option Int × List Char) :=
  match cs.takeWhile Char.isDigit with
  | [] => none
  | digits =>
    let size : Int := Nat.ofDigitChars 10 digits 0
    some (some (if negative then -size else size), cs.dropWhile Char.isDigit)

def readExponentSign : List Char → Option (Option Int × List Char)
  | '-' :: rest => readExponentDigits true rest
  | '+' :: rest => readExponentDigits false rest
  | cs => readExponentDigits false cs

/-- The power of ten at the end of a number, if there is one. -/
def readExponent : List Char → Option (Option Int × List Char)
  | 'e' :: rest => readExponentSign rest
  | 'E' :: rest => readExponentSign rest
  | cs => some (none, cs)

/-- A number without a point and an exponent is an integer, but for the negative
zero. No zero may stand in front of another digit. -/
def readNumber (cs : List Char) : Option (Json × List Char) := do
  let (negative, cs) := readMinus cs
  let whole := cs.takeWhile Char.isDigit
  if whole.isEmpty ∨ (whole.head? = some '0' ∧ whole.length ≠ 1) then none
  let (fraction, rest) ← readFraction (cs.dropWhile Char.isDigit)
  let (power, rest) ← readExponent rest
  let coefficient := Nat.ofDigitChars 10 (whole ++ fraction) 0
  if fraction.isEmpty ∧ power = none ∧ ¬(negative ∧ coefficient = 0) then
    return (.integer (if negative then -(coefficient : Int) else coefficient), rest)
  else
    return (.decimal ⟨negative, coefficient, power.getD 0 - fraction.length⟩, rest)

mutual

/-- A value at the start of the text, and what follows it. The first argument
bounds the number of brackets and items that are read. -/
def readValue : Nat → List Char → Option (Json × List Char)
  | 0, _ => none
  | fuel + 1, cs =>
    match skipBlanks cs with
    | 'n' :: 'u' :: 'l' :: 'l' :: rest => some (.null, rest)
    | 't' :: 'r' :: 'u' :: 'e' :: rest => some (.bool true, rest)
    | 'f' :: 'a' :: 'l' :: 's' :: 'e' :: rest => some (.bool false, rest)
    | '"' :: rest => (readText rest []).map fun (s, rest) => (.text s, rest)
    | '[' :: rest =>
      match skipBlanks rest with
      | ']' :: rest => some (.list [], rest)
      | _ =>
        match readValue fuel rest with
        | none => none
        | some (item, rest) =>
          (readItems fuel rest).map fun (items, rest) => (.list (item :: items), rest)
    | '\x7b' :: rest =>
      match skipBlanks rest with
      | '\x7d' :: rest => some (.object [], rest)
      | _ =>
        match readField fuel rest with
        | none => none
        | some (field, rest) =>
          (readFields fuel rest).map fun (fields, rest) => (.object (field :: fields), rest)
    | cs => readNumber cs

/-- The items after the first one, up to the closing bracket. -/
def readItems : Nat → List Char → Option (List Json × List Char)
  | 0, _ => none
  | fuel + 1, cs =>
    match skipBlanks cs with
    | ']' :: rest => some ([], rest)
    | ',' :: rest =>
      match readValue fuel rest with
      | none => none
      | some (item, rest) =>
        (readItems fuel rest).map fun (items, rest) => (item :: items, rest)
    | _ => none

/-- The fields after the first one, up to the closing brace. -/
def readFields : Nat → List Char → Option (List (String × Json) × List Char)
  | 0, _ => none
  | fuel + 1, cs =>
    match skipBlanks cs with
    | '\x7d' :: rest => some ([], rest)
    | ',' :: rest =>
      match readField fuel rest with
      | none => none
      | some (field, rest) =>
        (readFields fuel rest).map fun (fields, rest) => (field :: fields, rest)
    | _ => none

def readField : Nat → List Char → Option ((String × Json) × List Char)
  | 0, _ => none
  | fuel + 1, cs =>
    match skipBlanks cs with
    | '"' :: rest =>
      match readText rest [] with
      | none => none
      | some (key, rest) =>
        match skipBlanks rest with
        | ':' :: rest => (readValue fuel rest).map fun (value, rest) => ((key, value), rest)
        | _ => none
    | _ => none

end

/-- Reads a whole document. Only blanks may follow the value. Every step of the
reader takes at least one character, so twice the length is enough for all. -/
def Json.parse? (s : String) : Option Json :=
  match readValue (2 * s.toList.length + 2) s.toList with
  | some (value, rest) => if (skipBlanks rest).isEmpty then some value else none
  | none => none

end DutFixtures
