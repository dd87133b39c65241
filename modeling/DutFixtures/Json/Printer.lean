import DutFixtures.Json.Basic

namespace DutFixtures

/-- The blanks of a printed document: what stands in front of an item or a closing
bracket at a given depth, and what stands after a colon. -/
structure Layout where
  lineBreak : Nat → List Char
  afterColon : List Char

/-- One item a line, two spaces for each level. -/
def Layout.indented : Layout :=
  ⟨fun depth => '\n' :: List.replicate (2 * depth) ' ', [' ']⟩

/-- No blanks at all, so that a document is a single line. -/
def Layout.compact : Layout :=
  ⟨fun _ => [], []⟩

/-- How a character is written inside of a JSON text. -/
def escapeChar (c : Char) : List Char :=
  if c = '"' then ['\\', '"']
  else if c = '\\' then ['\\', '\\']
  else if c = '\n' then ['\\', 'n']
  else if c = '\r' then ['\\', 'r']
  else if c = '\t' then ['\\', 't']
  else if c = '\x08' then ['\\', 'b']
  else if c = '\x0c' then ['\\', 'f']
  else if c.toNat < 0x20 then
    ['\\', 'u', '0', '0', Nat.digitChar (c.toNat / 16), Nat.digitChar (c.toNat % 16)]
  else [c]

def printText (s : String) : List Char :=
  '"' :: s.toList.flatMap escapeChar ++ ['"']

def printInteger (n : Int) : List Char :=
  if n < 0 then '-' :: Nat.toDigits 10 n.natAbs else Nat.toDigits 10 n.natAbs

def printDecimal (d : Decimal) : List Char :=
  (if d.negative then ['-'] else []) ++ Nat.toDigits 10 d.coefficient ++
    'e' :: printInteger d.exponent

mutual

def Json.print (layout : Layout) (depth : Nat) : Json → List Char
  | .null => "null".toList
  | .bool true => "true".toList
  | .bool false => "false".toList
  | .integer n => printInteger n
  | .decimal d => printDecimal d
  | .text s => printText s
  | .list [] => ['[', ']']
  | .list (item :: rest) =>
    '[' :: layout.lineBreak (depth + 1) ++ item.print layout (depth + 1) ++
      printItems layout depth rest
  | .object [] => ['\x7b', '\x7d']
  | .object ((key, value) :: rest) =>
    '\x7b' :: layout.lineBreak (depth + 1) ++ printText key ++ ':' :: layout.afterColon ++
      value.print layout (depth + 1) ++ printFields layout depth rest

/-- The items after the first one, and the closing bracket. -/
def printItems (layout : Layout) (depth : Nat) : List Json → List Char
  | [] => layout.lineBreak depth ++ [']']
  | item :: rest =>
    ',' :: layout.lineBreak (depth + 1) ++ item.print layout (depth + 1) ++
      printItems layout depth rest

/-- The fields after the first one, and the closing brace. -/
def printFields (layout : Layout) (depth : Nat) : List (String × Json) → List Char
  | [] => layout.lineBreak depth ++ ['\x7d']
  | (key, value) :: rest =>
    ',' :: layout.lineBreak (depth + 1) ++ printText key ++ ':' :: layout.afterColon ++
      value.print layout (depth + 1) ++ printFields layout depth rest

end

/-- The document over several lines, as the tools answer it. -/
def Json.pretty (value : Json) : String :=
  String.ofList (value.print .indented 0)

/-- The document on one line, as messages are exchanged. -/
def Json.line (value : Json) : String :=
  String.ofList (value.print .compact 0)

end DutFixtures
