import DutFixtures.Json.Printer
import DutFixtures.Json.Reader
import DutFixtures.Proofs.DigitTexts

namespace DutFixtures

-- The grammar of JSON, as relations between a text and what it stands for. Of the reader only
-- the value of four hexadecimal digits is used.

/-- Blanks that may stand between the parts of a document. -/
def IsBlanks (cs : List Char) : Prop :=
  ∀ c ∈ cs, c ∈ [' ', '\t', '\n', '\r']

/-- Behind a backslash the first character stands for the second one. -/
def letterEscapes : List (Char × Char) :=
  [('"', '"'), ('\\', '\\'), ('/', '/'), ('b', '\x08'), ('f', '\x0c'), ('n', '\n'),
    ('r', '\r'), ('t', '\t')]

/-- The ways to write one character of a text. Only a character beyond the basic plane is
written by two numbers. -/
inductive WrittenChar : List Char → Char → Prop
  | itself {c} : 0x20 ≤ c.toNat → c ≠ '"' → c ≠ '\\' → WrittenChar [c] c
  | letter {l c} : (l, c) ∈ letterEscapes → WrittenChar ['\\', l] c
  | number {a b c d unit} : hexQuad? a b c d = some unit → unit < 0xD800 ∨ 0xE000 ≤ unit →
      WrittenChar ['\\', 'u', a, b, c, d] (Char.ofNat unit)
  | twoNumbers {a b c d a' b' c' d' high low} :
      hexQuad? a b c d = some high → 0xD800 ≤ high → high < 0xDC00 →
      hexQuad? a' b' c' d' = some low → 0xDC00 ≤ low → low < 0xE000 →
      WrittenChar ['\\', 'u', a, b, c, d, '\\', 'u', a', b', c', d']
        (Char.ofNat (0x10000 + (high - 0xD800) * 0x400 + (low - 0xDC00)))

inductive WrittenChars : List Char → List Char → Prop
  | nil : WrittenChars [] []
  | cons {first c cs rest} : WrittenChar first c → WrittenChars cs rest →
      WrittenChars (first ++ cs) (c :: rest)

inductive WrittenText : List Char → String → Prop
  | mk {cs s} : WrittenChars cs s → WrittenText ('"' :: cs ++ ['"']) (String.ofList s)

inductive WrittenMinus : List Char → Bool → Prop
  | absent : WrittenMinus [] false
  | present : WrittenMinus ['-'] true

/-- The digits after a point, if there is a point. -/
inductive WrittenFraction : List Char → List Char → Prop
  | absent : WrittenFraction [] []
  | digits {cs} : AreDigits cs → WrittenFraction ('.' :: cs) cs

inductive WrittenPowerSign : List Char → Bool → Prop
  | plus : WrittenPowerSign ['+'] false
  | minus {cs negative} : WrittenMinus cs negative → WrittenPowerSign cs negative

def signed (negative : Bool) (size : Nat) : Int :=
  if negative then -size else size

inductive WrittenPower : List Char → Option Int → Prop
  | absent : WrittenPower [] none
  | power {mark sign negative cs} : mark ∈ ['e', 'E'] → WrittenPowerSign sign negative →
      AreDigits cs →
      WrittenPower (mark :: sign ++ cs) (some (signed negative (Nat.ofDigitChars 10 cs 0)))

/-- What a number stands for. It is an integer if it has neither a point nor a power of ten and
is not a negative zero. -/
def numberValue (negative : Bool) (whole fraction : List Char) (power : Option Int) : Json :=
  let coefficient := Nat.ofDigitChars 10 (whole ++ fraction) 0
  if fraction = [] ∧ power = none ∧ ¬ (negative = true ∧ coefficient = 0) then
    .integer (signed negative coefficient)
  else .decimal ⟨negative, coefficient, power.getD 0 - fraction.length⟩

inductive WrittenNumber : List Char → Json → Prop
  | mk {minus negative whole point fraction mark power} : WrittenMinus minus negative →
      IsNumeral whole → WrittenFraction point fraction → WrittenPower mark power →
      WrittenNumber (minus ++ whole ++ point ++ mark) (numberValue negative whole fraction power)

mutual

/-- A value without blanks around it. -/
inductive WrittenValue : List Char → Json → Prop
  | null : WrittenValue ['n', 'u', 'l', 'l'] .null
  | yes : WrittenValue ['t', 'r', 'u', 'e'] (.bool true)
  | no : WrittenValue ['f', 'a', 'l', 's', 'e'] (.bool false)
  | number {cs v} : WrittenNumber cs v → WrittenValue cs v
  | text {cs s} : WrittenText cs s → WrittenValue cs (.text s)
  | emptyList {blanks} : IsBlanks blanks → WrittenValue ('[' :: blanks ++ [']']) (.list [])
  | list {before cs v more items after} : IsBlanks before → WrittenValue cs v →
      WrittenItems more items → IsBlanks after →
      WrittenValue ('[' :: before ++ cs ++ more ++ after ++ [']']) (.list (v :: items))
  | emptyObject {blanks} : IsBlanks blanks →
      WrittenValue ('\x7b' :: blanks ++ ['\x7d']) (.object [])
  | object {before cs f more fields after} : IsBlanks before → WrittenField cs f →
      WrittenFields more fields → IsBlanks after →
      WrittenValue ('\x7b' :: before ++ cs ++ more ++ after ++ ['\x7d']) (.object (f :: fields))

/-- The items after the first one, each behind a comma. -/
inductive WrittenItems : List Char → List Json → Prop
  | nil : WrittenItems [] []
  | cons {after before cs v more items} : IsBlanks after → IsBlanks before →
      WrittenValue cs v → WrittenItems more items →
      WrittenItems (after ++ ',' :: before ++ cs ++ more) (v :: items)

inductive WrittenField : List Char → String × Json → Prop
  | mk {name key after before cs v} : WrittenText name key → IsBlanks after →
      IsBlanks before → WrittenValue cs v →
      WrittenField (name ++ after ++ ':' :: before ++ cs) (key, v)

/-- The fields after the first one, each behind a comma. -/
inductive WrittenFields : List Char → List (String × Json) → Prop
  | nil : WrittenFields [] []
  | cons {after before cs f more fields} : IsBlanks after → IsBlanks before →
      WrittenField cs f → WrittenFields more fields →
      WrittenFields (after ++ ',' :: before ++ cs ++ more) (f :: fields)

end

/-- A whole document: a value, and blanks around it. -/
inductive WrittenDocument : List Char → Json → Prop
  | mk {before cs v after} : IsBlanks before → WrittenValue cs v → IsBlanks after →
      WrittenDocument (before ++ cs ++ after) v

/-- A layout that puts nothing but blanks between the parts of a document. -/
structure Layout.Blank (layout : Layout) : Prop where
  lineBreak : ∀ depth, IsBlanks (layout.lineBreak depth)
  afterColon : IsBlanks layout.afterColon

theorem isBlanks_nil : IsBlanks [] := fun _ member => nomatch member

theorem Layout.indented_blank : Layout.indented.Blank where
  lineBreak := by
    intro depth c member
    rcases List.mem_cons.mp member with rfl | space
    · decide
    · rw [List.eq_of_mem_replicate space]
      decide
  afterColon := by
    intro c member
    rw [List.mem_singleton.mp member]
    decide

theorem Layout.compact_blank : Layout.compact.Blank :=
  ⟨fun _ => isBlanks_nil, isBlanks_nil⟩

theorem hexQuad?_control : ∀ n < 0x20,
    hexQuad? '0' '0' (Nat.digitChar (n / 16)) (Nat.digitChar (n % 16)) = some n := by
  decide

theorem writtenChar_escapeChar (c : Char) : WrittenChar (escapeChar c) c := by
  unfold escapeChar
  split
  · subst c
    exact .letter (by decide)
  rename_i noQuote
  split
  · subst c
    exact .letter (by decide)
  rename_i noBackslash
  repeat
    split
    · subst c
      exact .letter (by decide)
  split
  · rename_i control
    have number := WrittenChar.number (hexQuad?_control _ control) (Or.inl (by omega))
    rwa [Char.ofNat_toNat] at number
  · rename_i plain
    exact .itself (by omega) noQuote noBackslash

theorem writtenChars_escaped (cs : List Char) : WrittenChars (cs.flatMap escapeChar) cs := by
  induction cs with
  | nil => exact .nil
  | cons c cs ih => exact .cons (writtenChar_escapeChar c) ih

theorem writtenText_printText (s : String) : WrittenText (printText s) s := by
  have text := WrittenText.mk (writtenChars_escaped s.toList)
  rwa [String.ofList_toList] at text

theorem numberValue_toDigits {negative : Bool} {n : Nat} (notMinusZero : negative = true → n ≠ 0) :
    numberValue negative (Nat.toDigits 10 n) [] none = .integer (signed negative n) := by
  have coefficient : Nat.ofDigitChars 10 (Nat.toDigits 10 n ++ []) 0 = n := by
    rw [List.append_nil, Nat.ofDigitChars_ten_toDigits]
  have whole : ¬ (negative = true ∧ n = 0) := fun minusZero =>
    notMinusZero minusZero.1 minusZero.2
  rw [numberValue, coefficient, if_pos ⟨rfl, rfl, whole⟩]

theorem printInteger_parts (n : Int) : ∃ minus negative, WrittenMinus minus negative ∧
    printInteger n = minus ++ Nat.toDigits 10 n.natAbs ∧ signed negative n.natAbs = n ∧
    (negative = true → n.natAbs ≠ 0) := by
  unfold printInteger signed
  split
  · exact ⟨['-'], true, .present, rfl, by simp only [if_true]; omega, fun _ => by omega⟩
  · exact ⟨[], false, .absent, rfl, by simp only [Bool.false_eq_true, if_false]; omega, nofun⟩

theorem writtenNumber_printInteger (n : Int) : WrittenNumber (printInteger n) (.integer n) := by
  obtain ⟨minus, negative, written, printed, value, notMinusZero⟩ := printInteger_parts n
  have number := WrittenNumber.mk written (isNumeral_toDigits n.natAbs) .absent .absent
  rw [numberValue_toDigits notMinusZero, value, List.append_nil, List.append_nil] at number
  rwa [printed]

theorem writtenPower_printInteger (n : Int) : WrittenPower ('e' :: printInteger n) (some n) := by
  obtain ⟨minus, negative, written, printed, value, -⟩ := printInteger_parts n
  have power := WrittenPower.power (List.mem_cons_self (a := 'e')) (.minus written)
    (isNumeral_toDigits n.natAbs).toAreDigits
  rw [Nat.ofDigitChars_ten_toDigits, value] at power
  rwa [printed]

theorem writtenNumber_printDecimal (d : Decimal) : WrittenNumber (printDecimal d) (.decimal d) := by
  have sign : WrittenMinus (if d.negative then ['-'] else []) d.negative := by
    cases d.negative
    · exact .absent
    · exact .present
  have number := WrittenNumber.mk sign (isNumeral_toDigits d.coefficient) .absent
    (writtenPower_printInteger d.exponent)
  have value : numberValue d.negative (Nat.toDigits 10 d.coefficient) [] (some d.exponent) =
      .decimal d := by
    simp [numberValue]
  rw [value, List.append_nil] at number
  exact number

mutual

theorem writtenValue_print {layout : Layout} (blank : layout.Blank) (depth : Nat) :
    (v : Json) → WrittenValue (v.print layout depth) v
  | .null => .null
  | .bool true => .yes
  | .bool false => .no
  | .integer n => .number (writtenNumber_printInteger n)
  | .decimal d => .number (writtenNumber_printDecimal d)
  | .text s => .text (writtenText_printText s)
  | .list [] => .emptyList isBlanks_nil
  | .list (item :: rest) => by
    have first := writtenValue_print blank (depth + 1) item
    obtain ⟨more, printed, written⟩ := printItems_written blank depth rest
    have list := WrittenValue.list (blank.lineBreak (depth + 1)) first written
      (blank.lineBreak depth)
    rw [Json.print, printed]
    simpa using list
  | .object [] => .emptyObject isBlanks_nil
  | .object ((key, value) :: rest) => by
    have first := WrittenField.mk (writtenText_printText key) isBlanks_nil blank.afterColon
      (writtenValue_print blank (depth + 1) value)
    obtain ⟨more, printed, written⟩ := printFields_written blank depth rest
    have object := WrittenValue.object (blank.lineBreak (depth + 1)) first written
      (blank.lineBreak depth)
    rw [Json.print, printed]
    simpa using object

theorem printItems_written {layout : Layout} (blank : layout.Blank) (depth : Nat) :
    (items : List Json) → ∃ more,
      printItems layout depth items = more ++ layout.lineBreak depth ++ [']'] ∧
        WrittenItems more items
  | [] => ⟨[], rfl, .nil⟩
  | item :: rest => by
    have first := writtenValue_print blank (depth + 1) item
    obtain ⟨more, printed, written⟩ := printItems_written blank depth rest
    refine ⟨_, ?_, .cons isBlanks_nil (blank.lineBreak (depth + 1)) first written⟩
    rw [printItems, printed]
    simp

theorem printFields_written {layout : Layout} (blank : layout.Blank) (depth : Nat) :
    (fields : List (String × Json)) → ∃ more,
      printFields layout depth fields = more ++ layout.lineBreak depth ++ ['\x7d'] ∧
        WrittenFields more fields
  | [] => ⟨[], rfl, .nil⟩
  | (key, value) :: rest => by
    have first := WrittenField.mk (writtenText_printText key) isBlanks_nil blank.afterColon
      (writtenValue_print blank (depth + 1) value)
    obtain ⟨more, printed, written⟩ := printFields_written blank depth rest
    refine ⟨_, ?_, .cons isBlanks_nil (blank.lineBreak (depth + 1)) first written⟩
    rw [printFields, printed]
    simp

end

/-- What is printed is a document that stands for the printed value. -/
theorem writtenDocument_print {layout : Layout} (blank : layout.Blank) (v : Json) :
    WrittenDocument (v.print layout 0) v := by
  have document := WrittenDocument.mk isBlanks_nil (writtenValue_print blank 0 v) isBlanks_nil
  simpa using document

end DutFixtures
