import DutFixtures.Pattern.Basic

namespace DutFixtures

/-- A test on the fields of an event or a span: there is one of that name, with that
value if one is given. -/
structure FieldTest where
  name : String
  value : Option String
  deriving DecidableEq, Repr

/-- Drops a sign at the start. -/
def unsigned : List Char → List Char
  | '+' :: rest => rest
  | '-' :: rest => rest
  | cs => cs

/-- Whether a text is nothing, or an exponent. -/
def isExponent : List Char → Bool
  | [] => true
  | c :: rest =>
    (c == 'e' || c == 'E') && !(unsigned rest).isEmpty && (unsigned rest).all Char.isDigit

/-- Whether a text is a decimal number. There are digits in front of the point or behind
it, or both, and the words for infinity and for no number count as well. -/
def isNumber (cs : List Char) : Bool :=
  let size := unsigned cs
  let word := String.ofList (size.map Char.toLower)
  let whole := size.takeWhile Char.isDigit
  let rest := size.dropWhile Char.isDigit
  let fraction := match rest with
    | '.' :: rest => rest.takeWhile Char.isDigit
    | _ => []
  let behind := match rest with
    | '.' :: rest => rest.dropWhile Char.isDigit
    | rest => rest
  word == "inf" || word == "infinity" || word == "nan" ||
    (!(whole.isEmpty && fraction.isEmpty) && isExponent behind)

/-- Reads the name of a field, or a name and a value with an equals sign between them.
What follows another equals sign is left out. A value is a number or a pattern. -/
def FieldTest.ofChars? (cs : List Char) : Option FieldTest :=
  let name := cs.takeWhile (· ≠ '=')
  match cs.drop name.length with
  | [] => if cs = [] then none else some ⟨String.ofList name, none⟩
  | _ :: rest =>
    let value := rest.takeWhile (· ≠ '=')
    if isNumber value || isPattern value then
      some ⟨String.ofList name, some (String.ofList value)⟩
    else none

end DutFixtures
