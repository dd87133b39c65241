import DutFixtures.Proofs.JsonGrammar
import Mathlib.Data.List.Basic

namespace DutFixtures

theorem isJsonBlank_iff {c : Char} : isJsonBlank c = true ↔ c ∈ [' ', '\t', '\n', '\r'] := by
  simp [isJsonBlank, or_assoc]

theorem skipBlanks_append {blanks : List Char} (blank : IsBlanks blanks) (cs : List Char) :
    skipBlanks (blanks ++ cs) = skipBlanks cs :=
  List.dropWhile_append_of_pos fun c member => isJsonBlank_iff.mpr (blank c member)

theorem skipBlanks_cons {c : Char} (solid : isJsonBlank c = false) (cs : List Char) :
    skipBlanks (c :: cs) = c :: cs :=
  List.dropWhile_cons_of_neg (by simp [solid])

section Texts

attribute [local simp] readText

theorem readText_itself {c : Char} (shown : 0x20 ≤ c.toNat) (noQuote : c ≠ '"')
    (noBackslash : c ≠ '\\') (rest done : List Char) :
    readText (c :: rest) done = readText rest (c :: done) := by
  have notControl : ¬ c.toNat < 0x20 := Nat.not_lt.mpr shown
  simp [noBackslash, notControl]

theorem readText_letter {l c : Char} (escape : (l, c) ∈ letterEscapes) (rest done : List Char) :
    readText ('\\' :: l :: rest) done = readText rest (c :: done) := by
  simp only [letterEscapes, List.mem_cons, List.not_mem_nil, Prod.mk.injEq, or_false] at escape
  rcases escape with ⟨rfl, rfl⟩ | ⟨rfl, rfl⟩ | ⟨rfl, rfl⟩ | ⟨rfl, rfl⟩ | ⟨rfl, rfl⟩ | ⟨rfl, rfl⟩ |
    ⟨rfl, rfl⟩ | ⟨rfl, rfl⟩ <;> simp

theorem readText_number {a b c d : Char} {unit : Nat} (number : hexQuad? a b c d = some unit)
    (whole : unit < 0xD800 ∨ 0xE000 ≤ unit) (rest done : List Char) :
    readText ('\\' :: 'u' :: a :: b :: c :: d :: rest) done =
      readText rest (Char.ofNat unit :: done) := by
  simp [number, whole]

theorem readText_twoNumbers {a b c d a' b' c' d' : Char} {high low : Nat}
    (first : hexQuad? a b c d = some high) (fromHigh : 0xD800 ≤ high) (belowLow : high < 0xDC00)
    (second : hexQuad? a' b' c' d' = some low) (fromLow : 0xDC00 ≤ low) (below : low < 0xE000)
    (rest done : List Char) :
    readText ('\\' :: 'u' :: a :: b :: c :: d :: '\\' :: 'u' :: a' :: b' :: c' :: d' :: rest) done =
      readText rest (Char.ofNat (0x10000 + (high - 0xD800) * 0x400 + (low - 0xDC00)) :: done) := by
  have half : ¬ (high < 0xD800 ∨ 0xE000 ≤ high) := by omega
  have upper : ¬ 0xDC00 ≤ high := by omega
  simp [first, half, upper, second, fromLow, below]

end Texts

theorem readText_char {first : List Char} {c : Char} (written : WrittenChar first c)
    (rest done : List Char) : readText (first ++ rest) done = readText rest (c :: done) := by
  cases written with
  | itself shown noQuote noBackslash => exact readText_itself shown noQuote noBackslash rest done
  | letter escape => exact readText_letter escape rest done
  | number number whole => exact readText_number number whole rest done
  | twoNumbers first fromHigh belowLow second fromLow below =>
    exact readText_twoNumbers first fromHigh belowLow second fromLow below rest done

theorem readText_chars {cs s : List Char} (written : WrittenChars cs s) (rest done : List Char) :
    readText (cs ++ '"' :: rest) done = some (String.ofList (done.reverse ++ s), rest) := by
  induction written generalizing done with
  | nil => rw [List.nil_append, readText, List.append_nil]
  | @cons first c cs s char chars ih =>
    rw [List.append_assoc, readText_char char, ih]
    simp

/-- What may follow some digits, so that they end there. -/
def EndsDigits (rest : List Char) : Prop :=
  ∀ c, rest.head? = some c → c.isDigit = false

/-- What may follow a number, so that it ends there. -/
def EndsNumber (rest : List Char) : Prop :=
  ∀ c, rest.head? = some c → c.isDigit = false ∧ c ∉ ['.', 'e', 'E']

theorem EndsNumber.endsDigits {rest : List Char} (ends : EndsNumber rest) : EndsDigits rest :=
  fun c head => (ends c head).1

theorem span_digits {cs rest : List Char} (digits : ∀ c ∈ cs, c.isDigit = true)
    (ends : EndsDigits rest) :
    (cs ++ rest).takeWhile Char.isDigit = cs ∧ (cs ++ rest).dropWhile Char.isDigit = rest := by
  rw [List.takeWhile_append_of_pos digits, List.dropWhile_append_of_pos digits]
  cases rest with
  | nil => simp
  | cons c rest =>
    have other : c.isDigit = false := ends c rfl
    simp [other]

theorem readMinus_written {minus : List Char} {negative : Bool}
    (written : WrittenMinus minus negative) {cs : List Char} (next : cs.head? ≠ some '-') :
    readMinus (minus ++ cs) = (negative, cs) := by
  cases written with
  | present => rfl
  | absent =>
    rw [List.nil_append, readMinus]
    rintro rest rfl
    exact next rfl

theorem readFraction_written {point digits : List Char} (written : WrittenFraction point digits)
    {rest : List Char} (ends : EndsDigits rest) (next : rest.head? ≠ some '.') :
    readFraction (point ++ rest) = some (digits, rest) := by
  cases written with
  | absent =>
    rw [List.nil_append, readFraction]
    rintro tail rfl
    exact next rfl
  | digits written =>
    obtain ⟨taken, left⟩ := span_digits written.digits ends
    obtain ⟨c, tail, rfl⟩ := List.exists_cons_of_ne_nil written.nonempty
    rw [List.cons_append, readFraction, taken, left]

theorem readExponentDigits_written {cs : List Char} (written : AreDigits cs) (negative : Bool)
    {rest : List Char} (ends : EndsDigits rest) :
    readExponentDigits negative (cs ++ rest) =
      some (some (signed negative (Nat.ofDigitChars 10 cs 0)), rest) := by
  obtain ⟨taken, left⟩ := span_digits written.digits ends
  obtain ⟨c, tail, rfl⟩ := List.exists_cons_of_ne_nil written.nonempty
  rw [readExponentDigits, taken, left]
  rfl

theorem readExponentSign_written {sign : List Char} {negative : Bool}
    (written : WrittenPowerSign sign negative) {cs : List Char} (digits : AreDigits cs)
    {rest : List Char} (ends : EndsDigits rest) :
    readExponentSign (sign ++ cs ++ rest) =
      some (some (signed negative (Nat.ofDigitChars 10 cs 0)), rest) := by
  have read := readExponentDigits_written digits negative ends
  obtain ⟨c, tail, start, digit⟩ := digits.head rest
  rw [List.append_assoc]
  cases written with
  | plus => exact read
  | minus minus =>
    cases minus with
    | present => exact read
    | absent =>
      rw [List.nil_append, ← read, start, readExponentSign]
      · rintro other ⟨⟩
        nomatch digit
      · rintro other ⟨⟩
        nomatch digit

theorem readExponent_written {mark : List Char} {power : Option Int}
    (written : WrittenPower mark power) {rest : List Char} (ends : EndsNumber rest) :
    readExponent (mark ++ rest) = some (power, rest) := by
  cases written with
  | absent =>
    rw [List.nil_append, readExponent]
    · rintro tail rfl
      exact (ends 'e' rfl).2 (by decide)
    · rintro tail rfl
      exact (ends 'E' rfl).2 (by decide)
  | @power mark sign negative cs letter sign digits =>
    have read := readExponentSign_written sign digits ends.endsDigits
    simp only [List.mem_cons, List.not_mem_nil, or_false] at letter
    rcases letter with rfl | rfl <;> exact read

theorem WrittenPower.next {mark : List Char} {power : Option Int}
    (written : WrittenPower mark power) {rest : List Char} (ends : EndsNumber rest) :
    EndsDigits (mark ++ rest) ∧ (mark ++ rest).head? ≠ some '.' := by
  cases written with
  | absent => exact ⟨ends.endsDigits, fun point => (ends '.' point).2 (by decide)⟩
  | power letter sign digits =>
    simp only [List.mem_cons, List.not_mem_nil, or_false] at letter
    rcases letter with rfl | rfl <;> exact ⟨by rintro c ⟨⟩; rfl, nofun⟩

theorem WrittenFraction.next {point digits : List Char} (written : WrittenFraction point digits)
    {rest : List Char} (ends : EndsDigits rest) : EndsDigits (point ++ rest) := by
  cases written with
  | absent => exact ends
  | digits cs => rintro c ⟨⟩; rfl

theorem readNumber_written {cs : List Char} {v : Json} (written : WrittenNumber cs v)
    {rest : List Char} (ends : EndsNumber rest) : readNumber (cs ++ rest) = some (v, rest) := by
  cases written with
  | @mk minus negative whole point fraction mark power sign numeral pointed powered =>
    obtain ⟨markEnds, noPoint⟩ := powered.next ends
    obtain ⟨taken, left⟩ := span_digits numeral.digits (pointed.next markEnds)
    obtain ⟨c, tail, start, digit⟩ := numeral.head (point ++ (mark ++ rest))
    have noMinus : (whole ++ (point ++ (mark ++ rest))).head? ≠ some '-' := by
      rw [start]
      rintro ⟨⟩
      nomatch digit
    have suited : ¬ (whole.isEmpty ∨ (whole.head? = some '0' ∧ whole.length ≠ 1)) := by
      rintro (empty | ⟨zero, more⟩)
      · exact numeral.nonempty (List.isEmpty_iff.mp empty)
      · exact more (numeral.noLeadingZero zero)
    simp only [List.append_assoc]
    rw [readNumber, readMinus_written sign noMinus]
    simp only [taken, left, if_neg suited, readFraction_written pointed markEnds noPoint,
      readExponent_written powered ends, Option.bind_eq_bind, Option.bind_some]
    simp only [numberValue, List.isEmpty_iff, signed]
    split <;> rfl

theorem WrittenNumber.start {cs : List Char} {v : Json} (written : WrittenNumber cs v) :
    ∃ c tail, cs = c :: tail ∧ (c = '-' ∨ c.isDigit = true) := by
  cases written with
  | mk sign numeral pointed powered =>
    cases sign with
    | present => exact ⟨'-', _, rfl, Or.inl rfl⟩
    | absent =>
      obtain ⟨c, tail, start, digit⟩ := numeral.head _
      rw [List.nil_append, List.append_assoc]
      exact ⟨c, tail, start, Or.inr digit⟩

/-- The first character of a value is neither a blank nor a closing bracket. -/
def StartsValue (c : Char) : Prop :=
  isJsonBlank c = false ∧ c ≠ ']'

theorem WrittenValue.start {cs : List Char} {v : Json} (written : WrittenValue cs v) :
    ∃ c tail, cs = c :: tail ∧ StartsValue c := by
  cases written with
  | number number =>
    obtain ⟨c, tail, start, minus | digit⟩ := number.start
    · exact ⟨c, tail, start, by rw [minus]; exact ⟨rfl, by decide⟩⟩
    · refine ⟨c, tail, start, ?_, ?_⟩
      · by_contra blank
        rw [Bool.not_eq_false, isJsonBlank_iff] at blank
        simp only [List.mem_cons, List.not_mem_nil, or_false] at blank
        rcases blank with rfl | rfl | rfl | rfl <;> nomatch digit
      · rintro rfl
        nomatch digit
  | text text => cases text; exact ⟨_, _, rfl, rfl, by decide⟩
  | _ => exact ⟨_, _, rfl, rfl, by decide⟩

theorem EndsNumber.of_char {c : Char} (separator : c ∈ [' ', '\t', '\n', '\r', ',', ']', '\x7d'])
    (rest : List Char) : EndsNumber (c :: rest) := by
  rintro _ ⟨⟩
  simp only [List.mem_cons, List.not_mem_nil, or_false] at separator
  rcases separator with rfl | rfl | rfl | rfl | rfl | rfl | rfl <;> decide

theorem EndsNumber.blanks {blanks rest : List Char} (blank : IsBlanks blanks)
    (ends : EndsNumber rest) : EndsNumber (blanks ++ rest) := by
  cases blanks with
  | nil => exact ends
  | cons c blanks =>
    have space := blank c (List.mem_cons_self ..)
    exact .of_char (List.mem_append_left [',', ']', '\x7d'] space) _

theorem EndsNumber.items {more rest : List Char} {items : List Json}
    (written : WrittenItems more items) (ends : EndsNumber rest) : EndsNumber (more ++ rest) := by
  cases written with
  | nil => exact ends
  | cons after before value items =>
    simp only [List.append_assoc]
    exact .blanks after (.of_char (by decide) _)

theorem EndsNumber.fields {more rest : List Char} {fields : List (String × Json)}
    (written : WrittenFields more fields) (ends : EndsNumber rest) :
    EndsNumber (more ++ rest) := by
  cases written with
  | nil => exact ends
  | cons after before field fields =>
    simp only [List.append_assoc]
    exact .blanks after (.of_char (by decide) _)

section Steps

attribute [local simp] readValue readItems readFields readField

variable {fuel : Nat} {cs inner next rest : List Char}

theorem readValue_number {tail : List Char} {c : Char} (front : skipBlanks cs = c :: tail)
    (number : c = '-' ∨ c.isDigit = true) :
    readValue (fuel + 1) cs = readNumber (c :: tail) := by
  have other : c ∉ ['n', 't', 'f', '"', '[', '\x7b'] := by
    intro member
    simp only [List.mem_cons, List.not_mem_nil, or_false] at member
    rcases member with rfl | rfl | rfl | rfl | rfl | rfl <;> revert number <;> decide
  rw [readValue, front]
  -- Each of the other shapes begins with a character that begins no number.
  split <;> first | rfl | (rename_i shape; cases shape; exact absurd (by decide) other)

theorem readValue_emptyList (front : skipBlanks cs = '[' :: inner)
    (close : skipBlanks inner = ']' :: rest) :
    readValue (fuel + 1) cs = some (.list [], rest) := by
  simp [front, close]

theorem readValue_list {item : Json} {items : List Json} (front : skipBlanks cs = '[' :: inner)
    (occupied : (skipBlanks inner).head? ≠ some ']')
    (first : readValue fuel inner = some (item, next))
    (others : readItems fuel next = some (items, rest)) :
    readValue (fuel + 1) cs = some (.list (item :: items), rest) := by
  simp only [readValue, front]
  split
  · rename_i close
    rw [close] at occupied
    exact absurd rfl occupied
  · simp only [first, others, Option.map_some]

theorem readValue_emptyObject (front : skipBlanks cs = '\x7b' :: inner)
    (close : skipBlanks inner = '\x7d' :: rest) :
    readValue (fuel + 1) cs = some (.object [], rest) := by
  simp [front, close]

theorem readValue_object {field : String × Json} {fields : List (String × Json)}
    (front : skipBlanks cs = '\x7b' :: inner)
    (occupied : (skipBlanks inner).head? ≠ some '\x7d')
    (first : readField fuel inner = some (field, next))
    (others : readFields fuel next = some (fields, rest)) :
    readValue (fuel + 1) cs = some (.object (field :: fields), rest) := by
  simp only [readValue, front]
  split
  · rename_i close
    rw [close] at occupied
    exact absurd rfl occupied
  · simp only [first, others, Option.map_some]

theorem readItems_cons {item : Json} {items : List Json} (front : skipBlanks cs = ',' :: inner)
    (first : readValue fuel inner = some (item, next))
    (others : readItems fuel next = some (items, rest)) :
    readItems (fuel + 1) cs = some (item :: items, rest) := by
  simp [front, first, others]

theorem readFields_cons {field : String × Json} {fields : List (String × Json)}
    (front : skipBlanks cs = ',' :: inner)
    (first : readField fuel inner = some (field, next))
    (others : readFields fuel next = some (fields, rest)) :
    readFields (fuel + 1) cs = some (field :: fields, rest) := by
  simp [front, first, others]

theorem readField_mk {key : String} {value : Json} {afterKey : List Char}
    (front : skipBlanks cs = '"' :: inner) (name : readText inner [] = some (key, afterKey))
    (colon : skipBlanks afterKey = ':' :: next) (read : readValue fuel next = some (value, rest)) :
    readField (fuel + 1) cs = some ((key, value), rest) := by
  simp [front, name, colon, read]

end Steps

theorem skipBlanks_blanks {blanks : List Char} (blank : IsBlanks blanks) {c : Char}
    (solid : isJsonBlank c = false) (cs : List Char) : skipBlanks (blanks ++ c :: cs) = c :: cs := by
  rw [skipBlanks_append blank, skipBlanks_cons solid]

theorem WrittenValue.skip {cs : List Char} {v : Json} (written : WrittenValue cs v)
    {front : List Char} (blank : IsBlanks front) (rest : List Char) :
    skipBlanks (front ++ (cs ++ rest)) = cs ++ rest ∧ (cs ++ rest).head? ≠ some ']' := by
  obtain ⟨c, tail, rfl, solid, noClose⟩ := written.start
  exact ⟨skipBlanks_blanks blank solid _, fun close => noClose (Option.some.inj close)⟩

theorem WrittenValue.length_pos {cs : List Char} {v : Json} (written : WrittenValue cs v) :
    0 < cs.length := by
  obtain ⟨c, tail, rfl, -⟩ := written.start
  exact Nat.succ_pos _

theorem WrittenField.start {cs : List Char} {f : String × Json} (written : WrittenField cs f) :
    ∃ tail, cs = '"' :: tail := by
  obtain ⟨⟨chars⟩, after, before, value⟩ := written
  exact ⟨_, rfl⟩

theorem WrittenField.skip {cs : List Char} {f : String × Json} (written : WrittenField cs f)
    {front : List Char} (blank : IsBlanks front) (rest : List Char) :
    skipBlanks (front ++ (cs ++ rest)) = cs ++ rest ∧ (cs ++ rest).head? ≠ some '\x7d' := by
  obtain ⟨tail, rfl⟩ := written.start
  exact ⟨skipBlanks_blanks blank rfl _, nofun⟩

theorem WrittenField.length_pos {cs : List Char} {f : String × Json} (written : WrittenField cs f) :
    0 < cs.length := by
  obtain ⟨tail, rfl⟩ := written.start
  exact Nat.succ_pos _

mutual

-- By induction on how the text is written. Every bracket and every comma takes a character, so
-- the length of what is left to read bounds the steps that are left.
theorem WrittenValue.read {cs : List Char} {v : Json} (written : WrittenValue cs v) {fuel : Nat}
    (enough : cs.length ≤ fuel) {front rest : List Char} (blank : IsBlanks front)
    (ends : EndsNumber rest) : readValue fuel (front ++ (cs ++ rest)) = some (v, rest) := by
  obtain ⟨fuel, rfl⟩ := Nat.exists_eq_add_one.mpr (Nat.lt_of_lt_of_le written.length_pos enough)
  have skipped := (written.skip blank rest).1
  cases written with
  | null => rw [readValue, skipped]; rfl
  | yes => rw [readValue, skipped]; rfl
  | no => rw [readValue, skipped]; rfl
  | number number =>
    have read := readNumber_written number ends
    obtain ⟨c, tail, rfl, digit⟩ := number.start
    exact (readValue_number skipped digit).trans read
  | text text =>
    obtain ⟨chars⟩ := text
    rw [readValue, skipped]
    simp [readText_chars chars]
  | emptyList inside =>
    rw [List.append_assoc] at skipped ⊢
    exact readValue_emptyList skipped (skipBlanks_blanks inside rfl _)
  | @list before cs v more items after leading value written trailing =>
    have shape : '[' :: before ++ cs ++ more ++ after ++ [']'] ++ rest =
        '[' :: (before ++ (cs ++ (more ++ (after ++ ']' :: rest)))) := by simp
    have positive := value.length_pos
    simp only [List.length_append, List.length_cons, List.length_nil] at enough
    rw [shape] at skipped ⊢
    have tailEnds : EndsNumber (after ++ ']' :: rest) := .blanks trailing (.of_char (by decide) _)
    have fits : cs.length ≤ fuel := by omega
    have enoughLeft : more.length < fuel := by omega
    have first := value.read fits leading (tailEnds.items written)
    have others := written.read enoughLeft trailing rest
    obtain ⟨inside, occupied⟩ := value.skip leading (more ++ (after ++ ']' :: rest))
    exact readValue_list skipped (by rwa [inside]) first others
  | emptyObject inside =>
    rw [List.append_assoc] at skipped ⊢
    exact readValue_emptyObject skipped (skipBlanks_blanks inside rfl _)
  | @object before cs f more fields after leading field written trailing =>
    have shape : '\x7b' :: before ++ cs ++ more ++ after ++ ['\x7d'] ++ rest =
        '\x7b' :: (before ++ (cs ++ (more ++ (after ++ '\x7d' :: rest)))) := by simp
    have positive := field.length_pos
    simp only [List.length_append, List.length_cons, List.length_nil] at enough
    rw [shape] at skipped ⊢
    have tailEnds : EndsNumber (after ++ '\x7d' :: rest) := .blanks trailing (.of_char (by decide) _)
    have fits : cs.length ≤ fuel := by omega
    have enoughLeft : more.length < fuel := by omega
    have first := field.read fits leading (tailEnds.fields written)
    have others := written.read enoughLeft trailing rest
    obtain ⟨inside, occupied⟩ := field.skip leading (more ++ (after ++ '\x7d' :: rest))
    exact readValue_object skipped (by rwa [inside]) first others

theorem WrittenItems.read {more : List Char} {items : List Json} (written : WrittenItems more items)
    {fuel : Nat} (enough : more.length < fuel) {last : List Char} (blank : IsBlanks last)
    (rest : List Char) : readItems fuel (more ++ (last ++ ']' :: rest)) = some (items, rest) := by
  obtain ⟨fuel, rfl⟩ := Nat.exists_eq_add_one.mpr (Nat.zero_lt_of_lt enough)
  cases written with
  | nil =>
    rw [readItems, List.nil_append, skipBlanks_blanks blank rfl]
    rfl
  | @cons after before cs v more items trailing leading value written =>
    have shape : after ++ ',' :: before ++ cs ++ more ++ (last ++ ']' :: rest) =
        after ++ ',' :: (before ++ (cs ++ (more ++ (last ++ ']' :: rest)))) := by simp
    have positive := value.length_pos
    simp only [List.length_append, List.length_cons] at enough
    have tailEnds : EndsNumber (last ++ ']' :: rest) := .blanks blank (.of_char (by decide) _)
    have fits : cs.length ≤ fuel := by omega
    have enoughLeft : more.length < fuel := by omega
    have first := value.read fits leading (tailEnds.items written)
    have others := written.read enoughLeft blank rest
    rw [shape]
    exact readItems_cons (skipBlanks_blanks trailing rfl _) first others

theorem WrittenField.read {cs : List Char} {f : String × Json} (written : WrittenField cs f)
    {fuel : Nat} (enough : cs.length ≤ fuel) {front rest : List Char} (blank : IsBlanks front)
    (ends : EndsNumber rest) : readField fuel (front ++ (cs ++ rest)) = some (f, rest) := by
  obtain ⟨fuel, rfl⟩ := Nat.exists_eq_add_one.mpr (Nat.lt_of_lt_of_le written.length_pos enough)
  cases written with
  | @mk name key after before cs v name trailing leading value =>
    obtain @⟨text, s, chars⟩ := name
    simp only [List.length_append, List.length_cons] at enough
    have fits : cs.length ≤ fuel := by omega
    have shape : front ++ ('"' :: text ++ ['"'] ++ after ++ ':' :: before ++ cs ++ rest) =
        front ++ '"' :: (text ++ '"' :: (after ++ ':' :: (before ++ (cs ++ rest)))) := by simp
    rw [shape]
    exact readField_mk (skipBlanks_blanks blank rfl _) (readText_chars chars _ [])
      (skipBlanks_blanks trailing rfl _) (value.read fits leading ends)

theorem WrittenFields.read {more : List Char} {fields : List (String × Json)}
    (written : WrittenFields more fields) {fuel : Nat} (enough : more.length < fuel)
    {last : List Char} (blank : IsBlanks last) (rest : List Char) :
    readFields fuel (more ++ (last ++ '\x7d' :: rest)) = some (fields, rest) := by
  obtain ⟨fuel, rfl⟩ := Nat.exists_eq_add_one.mpr (Nat.zero_lt_of_lt enough)
  cases written with
  | nil =>
    rw [readFields, List.nil_append, skipBlanks_blanks blank rfl]
    rfl
  | @cons after before cs f more fields trailing leading field written =>
    have shape : after ++ ',' :: before ++ cs ++ more ++ (last ++ '\x7d' :: rest) =
        after ++ ',' :: (before ++ (cs ++ (more ++ (last ++ '\x7d' :: rest)))) := by simp
    have positive := field.length_pos
    simp only [List.length_append, List.length_cons] at enough
    have tailEnds : EndsNumber (last ++ '\x7d' :: rest) := .blanks blank (.of_char (by decide) _)
    have fits : cs.length ≤ fuel := by omega
    have enoughLeft : more.length < fuel := by omega
    have first := field.read fits leading (tailEnds.fields written)
    have others := written.read enoughLeft blank rest
    rw [shape]
    exact readFields_cons (skipBlanks_blanks trailing rfl _) first others

end

theorem endsNumber_of_blanks {blanks : List Char} (blank : IsBlanks blanks) : EndsNumber blanks := by
  have ends : EndsNumber [] := nofun
  simpa using ends.blanks blank

/-- The reader accepts every document, and reads the value that it stands for. -/
theorem WrittenDocument.parse? {cs : List Char} {v : Json} (written : WrittenDocument cs v) :
    Json.parse? (String.ofList cs) = some v := by
  obtain @⟨before, cs, v, after, leading, value, trailing⟩ := written
  have ends := endsNumber_of_blanks trailing
  have enough : cs.length ≤ 2 * (before ++ (cs ++ after)).length + 2 := by
    simp only [List.length_append]
    omega
  have left : skipBlanks after = [] := by
    have skipped := skipBlanks_append trailing []
    rwa [List.append_nil] at skipped
  rw [Json.parse?, String.toList_ofList, List.append_assoc, value.read enough leading ends]
  simp [left]

theorem Json.parse?_pretty (v : Json) : parse? v.pretty = some v :=
  (writtenDocument_print Layout.indented_blank v).parse?

theorem Json.parse?_line (v : Json) : parse? v.line = some v :=
  (writtenDocument_print Layout.compact_blank v).parse?

/-- A document stands for one value only. -/
theorem WrittenDocument.unique {cs : List Char} {v w : Json} (one : WrittenDocument cs v)
    (other : WrittenDocument cs w) : v = w :=
  Option.some.inj (one.parse?.symm.trans other.parse?)

end DutFixtures
