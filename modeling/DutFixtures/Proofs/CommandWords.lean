import DutFixtures.CommandLine.Parse
import DutFixtures.Proofs.DigitTexts

namespace DutFixtures

/-- The text of a count: digits, perhaps with a plus sign in front of them, that denote a
number below the bound of a word. Zeros may stand in front. -/
def IsCountText (text : String) (n : Nat) : Prop :=
  ∃ digits, AreDigits digits ∧ (text.toList = digits ∨ text.toList = '+' :: digits) ∧
    Nat.ofDigitChars 10 digits 0 = n ∧ n < Nat.pow 2 64

/-- A text that can be a value in a word of its own: it does not look like an option. -/
def StandsAlone (text : String) : Prop :=
  text = "-" ∨ text.toList.head? ≠ some '-'

instance (text : String) : Decidable (StandsAlone text) :=
  inferInstanceAs (Decidable (_ ∨ _))

/-- The values that an option takes. -/
def Opt.Fits (o : Opt) (value : String) : Prop :=
  match o with
  | .appDir | .logFile => value ≠ ""
  | .dutCount => ∃ n, IsCountText value n
  | _ => True

section Counts

variable {cs : List Char} {value n : Nat}

theorem le_ofDigitChars (cs : List Char) (value : Nat) : value ≤ Nat.ofDigitChars 10 cs value := by
  induction cs generalizing value with
  | nil => exact Nat.le_refl value
  | cons c cs ih =>
    have grown := ih (10 * value + (c.toNat - '0'.toNat))
    rw [Nat.ofDigitChars_cons]
    omega

/-- Reading goes on as long as the number is below the bound. It never gets smaller again, so
the whole number is below the bound if no fault is met. -/
theorem countDigits_eq_ok_iff (small : value < countLimit) :
    countDigits value cs = .ok n ↔
      (∀ c ∈ cs, c.isDigit = true) ∧ Nat.ofDigitChars 10 cs value = n ∧ n < countLimit := by
  induction cs generalizing value with
  | nil =>
    rw [countDigits, Except.ok.injEq, Nat.ofDigitChars_nil]
    constructor
    · rintro rfl
      exact ⟨(fun _ member => nomatch member), rfl, small⟩
    · exact fun parts => parts.2.1
  | cons c cs ih =>
    rw [countDigits, Nat.ofDigitChars_cons, List.forall_mem_cons]
    by_cases digit : c.isDigit = true
    · by_cases next : 10 * value + (c.toNat - '0'.toNat) < countLimit
      · simp only [digit, if_true, next, ih next, true_and]
      · simp only [digit, if_true, next, if_false, reduceCtorEq, false_iff]
        rintro ⟨-, rfl, below⟩
        have grown := le_ofDigitChars cs (10 * value + (c.toNat - '0'.toNat))
        omega
    · simp only [digit, if_false, reduceCtorEq, false_and, Bool.false_eq_true]

theorem countFrom_eq_ok_iff :
    countFrom cs = .ok n ↔ AreDigits cs ∧ Nat.ofDigitChars 10 cs 0 = n ∧ n < countLimit := by
  have zero : 0 < countLimit := Nat.pow_pos Nat.two_pos
  cases cs with
  | nil =>
    refine ⟨fun read => (nomatch read), fun parts => ?_⟩
    exact absurd rfl parts.1.nonempty
  | cons c cs =>
    rw [countFrom, countDigits_eq_ok_iff zero]
    constructor
    · rintro ⟨digits, read⟩
      exact ⟨⟨List.cons_ne_nil c cs, digits⟩, read⟩
    · rintro ⟨digits, read⟩
      exact ⟨digits.digits, read⟩

theorem parseCount_eq_ok_iff {s : String} : parseCount s = .ok n ↔ IsCountText s n := by
  unfold parseCount IsCountText
  split
  · rename_i empty
    refine ⟨fun read => (nomatch read), ?_⟩
    rintro ⟨digits, ⟨nonempty, -⟩, text | text, -⟩
    · exact absurd (text.symm.trans empty) nonempty
    · nomatch empty.symm.trans text
  · rename_i rest signed
    rw [countFrom_eq_ok_iff]
    constructor
    · rintro ⟨digits, read⟩
      exact ⟨rest, digits, Or.inr signed, read⟩
    · rintro ⟨digits, written, text | text, read⟩
      · have plus := written.digits '+' (by rw [← text, signed]; exact List.mem_cons_self ..)
        exact absurd plus (by decide)
      · cases signed.symm.trans text
        exact ⟨written, read⟩
  · rename_i nonempty unsigned
    rw [countFrom_eq_ok_iff]
    constructor
    · rintro ⟨digits, read⟩
      exact ⟨_, digits, Or.inl rfl, read⟩
    · rintro ⟨digits, written, text | text, read⟩
      · rw [text]
        exact ⟨written, read⟩
      · exact absurd text (unsigned digits)

end Counts

section Words

variable {word text name value : String} {o : Opt}

theorem Opt.no_equals (o : Opt) : '=' ∉ o.name.toList := by
  cases o <;> decide

theorem Opt.ofName?_name (o : Opt) : Opt.ofName? o.name = some o := by
  cases o <;> decide

theorem Opt.name_of_ofName? (named : Opt.ofName? name = some o) : o.name = name := by
  simpa using List.find?_some named

/-- What a word looks like that has a given form. -/
inductive WordForm : String → Word → Prop
  | endOfOptions : WordForm "--" .endOfOptions
  | named (name : String) : WordForm ("--" ++ name) (.long name none)
  | valued (name value : String) : WordForm ("--" ++ name ++ "=" ++ value) (.long name (some value))
  | short {word : String} (letter : Char) : ¬ StandsAlone word → WordForm word (.short letter)
  | plain {text : String} : StandsAlone text → WordForm text (.plain text)

theorem Word.form (word : String) : WordForm word (Word.ofString word) := by
  unfold ofString
  split
  · rename_i chars
    have same : word = "--" := String.toList_inj.mp chars
    rw [same]
    exact .endOfOptions
  · rename_i cs _ chars
    have parts : cs.takeWhile (· ≠ '=') ++ cs.dropWhile (· ≠ '=') = cs :=
      List.takeWhile_append_dropWhile
    split
    · rename_i whole
      rw [whole, List.append_nil] at parts
      have same : word = "--" ++ String.ofList (cs.takeWhile (· ≠ '=')) := by
        rw [← String.toList_inj, chars, String.toList_append, String.toList_ofList, parts]
        simp
      rw [same]
      exact .named _
    · rename_i mark value behind
      have equals : mark = '=' := by
        have stopped := List.head?_dropWhile_not (· ≠ '=') cs
        rw [behind] at stopped
        simpa using stopped
      rw [behind, equals] at parts
      have same : word = "--" ++ String.ofList (cs.takeWhile (· ≠ '=')) ++ "=" ++
          String.ofList value := by
        rw [← String.toList_inj, chars, String.toList_append, String.toList_append,
          String.toList_append, String.toList_ofList, String.toList_ofList]
        simpa using parts.symm
      rw [same]
      exact .valued _ _
  · rename_i c rest chars
    refine .short _ ?_
    rintro (dash | head)
    · rw [dash] at chars
      nomatch chars
    · exact head (by rw [chars]; rfl)
  · rename_i notEnd notLong notShort
    refine .plain ?_
    by_cases head : word.toList.head? = some '-'
    · obtain ⟨rest, chars⟩ := List.head?_eq_some_iff.mp head
      cases rest with
      | nil => exact Or.inl (String.toList_inj.mp chars)
      | cons c rest => exact absurd chars (notShort c rest)
    · exact Or.inr head

theorem Word.ofString_valued (o : Opt) (value : String) :
    Word.ofString ("--" ++ o.name ++ "=" ++ value) = .long o.name (some value) := by
  have chars : ("--" ++ o.name ++ "=" ++ value).toList =
      '-' :: '-' :: (o.name.toList ++ '=' :: value.toList) := by simp
  have letters : ∀ c ∈ o.name.toList, decide (c ≠ '=') = true := by
    intro c member
    refine decide_eq_true ?_
    rintro rfl
    exact o.no_equals member
  have front : (o.name.toList ++ '=' :: value.toList).takeWhile (· ≠ '=') = o.name.toList := by
    rw [List.takeWhile_append_of_pos letters]
    simp
  have behind : (o.name.toList ++ '=' :: value.toList).dropWhile (· ≠ '=') =
      '=' :: value.toList := by
    rw [List.dropWhile_append_of_pos letters]
    simp
  unfold ofString
  rw [chars]
  split
  · rename_i short
    simp at short
  · rename_i cs _ same
    cases same
    simp only [front, behind, String.ofList_toList]
  · rename_i notDash same
    cases same
    exact absurd rfl notDash
  · rename_i notLong _
    exact absurd rfl (notLong _)

theorem Word.ofString_named (o : Opt) : Word.ofString ("--" ++ o.name) = .long o.name none := by
  cases o <;> rfl

theorem Word.ofString_standing (stands : StandsAlone text) : Word.ofString text = .plain text := by
  have dashes (rest : String) : ¬ StandsAlone ("--" ++ rest) := by
    rintro (dash | head)
    · have lengths := congrArg (fun s => s.toList.length) dash
      simp at lengths
    · simp at head
  have form := Word.form text
  generalize Word.ofString text = word at form
  cases form with
  | endOfOptions => exact absurd stands (by decide)
  | named name => exact absurd stands (dashes name)
  | valued name value =>
    rw [String.append_assoc, String.append_assoc] at stands
    exact absurd stands (dashes _)
  | short letter other => exact absurd stands other
  | plain _ => rfl

end Words

end DutFixtures
