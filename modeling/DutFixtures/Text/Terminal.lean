namespace DutFixtures

/-- Where a reader of terminal output stands: in plain text, or inside of a control
sequence that is not shown. -/
inductive TerminalState where
  | text
  /-- Just behind an escape character. -/
  | escape
  /-- In a short sequence, whose end is a letter or a digit. -/
  | intermediate
  /-- In a sequence that a bracket opens and a letter ends. -/
  | control
  /-- In a command to the system, which a bell ends. -/
  | command
  /-- In the three parts of the head of a device string, up to the letter that ends it. -/
  | deviceHead
  | deviceParameters
  | deviceIntermediate
  /-- In a string that is not shown. No bell ends it. -/
  | payload
  deriving DecidableEq, Repr

/-- Blanks that a terminal acts on, and that are kept all the same. -/
def isLayoutControl (c : Char) : Bool :=
  c == '\t' || c == '\n' || c == '\x0c' || c == '\r'

/-- Whether the form of a character in bytes holds the byte `0x9c`, which ends a
payload wherever it stands. -/
def endsPayload (c : Char) : Bool :=
  (String.utf8EncodeChar c).contains 0x9c

def TerminalState.afterEscape (c : Char) : TerminalState :=
  if c = '[' then .control
  else if c = ']' then .command
  else if c = 'P' then .deviceHead
  else if c = 'X' ∨ c = '^' ∨ c = '_' then .payload
  else if c ≤ '/' then .intermediate
  else .text

def TerminalState.inDeviceHead (state : TerminalState) (c : Char) : TerminalState :=
  if c ≤ '/' then .deviceIntermediate
  else if c ≤ ';' then if state = .deviceIntermediate then .payload else .deviceParameters
  else if c ≤ '?' then if state = .deviceHead then .deviceParameters else .payload
  else .payload

/-- What a printable ASCII character leads to. -/
def TerminalState.afterPrintable (state : TerminalState) (c : Char) : TerminalState :=
  match state with
  | .escape => .afterEscape c
  | .intermediate => if c ≤ '/' then .intermediate else .text
  | .control => if c ≤ '?' then .control else .text
  | .deviceHead | .deviceParameters | .deviceIntermediate => state.inDeviceHead c
  | .text | .command | .payload => state

/-- The state behind a character. Escape begins a sequence anywhere, and two controls
break one off. In the midst of a sequence other characters than printable ASCII ones
change nothing, apart from those that end the string they stand in. -/
def TerminalState.next (state : TerminalState) (c : Char) : TerminalState :=
  if c = '\x1b' then .escape
  else if c = '\x18' ∨ c = '\x1a' then .text
  else if ' ' ≤ c ∧ c ≤ '~' then state.afterPrintable c
  else
    match state with
    | .escape | .intermediate | .control => if isLayoutControl c then .text else state
    | .command => if c = '\x07' then .text else .command
    | .payload => if endsPayload c then .text else .payload
    | .text | .deviceHead | .deviceParameters | .deviceIntermediate => state

/-- Whether a character is shown. Tabs and line ends are shown even in the midst of a
short sequence. -/
def TerminalState.shows (state : TerminalState) (c : Char) : Bool :=
  match state with
  | .text => isLayoutControl c || (' ' ≤ c && c != '\x7f')
  | .escape | .intermediate | .control => isLayoutControl c
  | _ => false

/-- The text without control characters and control sequences, as it is seen where
no terminal interprets it. -/
def plainText : TerminalState → List Char → List Char
  | _, [] => []
  | state, c :: cs =>
    if state.shows c then c :: plainText (state.next c) cs else plainText (state.next c) cs

/-- The first line of a text, without the characters that end it. -/
def firstLine (cs : List Char) : List Char :=
  let line := cs.takeWhile (· ≠ '\n')
  if line.length < cs.length ∧ line.getLast? = some '\r' then line.dropLast else line

/-- A control character that could steer a terminal is written by its code. -/
def harmlessChar (c : Char) : List Char :=
  if c = '\x1b' then "\\x1b".toList
  else if c = '\x07' then "\\x07".toList
  else if c = '\x08' then "\\x08".toList
  else if c = '\x0c' then "\\x0c".toList
  else if c = '\x7f' then "\\x7f".toList
  else if 0x80 ≤ c.toNat ∧ c.toNat ≤ 0x9f then
    ['\\', 'u', '\x7b'] ++ Nat.toDigits 16 c.toNat ++ ['\x7d']
  else [c]

/-- The text as it may be written to a log that is read on a terminal. -/
def harmless (s : String) : String :=
  String.ofList (s.toList.flatMap harmlessChar)

end DutFixtures
