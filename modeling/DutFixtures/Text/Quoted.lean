import DutFixtures.Text.Printable

namespace DutFixtures

/-- How a character is written between quotation marks: the common controls by a
letter, other hidden characters by their code point in braces. -/
def quoteChar (c : Char) : List Char :=
  match c with
  | '\x00' => ['\\', '0']
  | '\t' => ['\\', 't']
  | '\r' => ['\\', 'r']
  | '\n' => ['\\', 'n']
  | '\\' => ['\\', '\\']
  | '"' => ['\\', '"']
  | c =>
    if isPrintable c then [c]
    else ['\\', 'u', '\x7b'] ++ Nat.toDigits 16 c.toNat ++ ['\x7d']

/-- A text between quotation marks, on one line and without hidden characters. An
apostrophe needs no escape there. -/
def quoted (s : String) : String :=
  String.ofList ('"' :: s.toList.flatMap quoteChar ++ ['"'])

/-- The list of the given texts, each quoted, in brackets. -/
def quotedList (items : List String) : String :=
  "[" ++ ", ".intercalate (items.map quoted) ++ "]"

/-- An optional value as it is shown in a log line. -/
def shownOption (inner : String → String) : Option String → String
  | none => "None"
  | some s => "Some(" ++ inner s ++ ")"

end DutFixtures
