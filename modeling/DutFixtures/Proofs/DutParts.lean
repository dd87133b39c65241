import DutFixtures.DutRun
import Mathlib.Data.List.DropRight
import Mathlib.Data.List.GetD
import Mathlib.Data.List.TakeWhile

namespace DutFixtures

theorem trimChars_sublist (cs : List Char) : (trimChars cs).Sublist cs :=
  (List.rdropWhile_prefix isBlank _).sublist.trans (List.dropWhile_suffix isBlank).sublist

/-- Cutting blanks off the end leaves the beginning as it is, so a second pass from
the front finds nothing to drop. -/
theorem dropWhile_trimChars (cs : List Char) :
    (trimChars cs).dropWhile isBlank = trimChars cs := by
  rw [List.dropWhile_eq_self_iff]
  intro nonempty
  have cut : trimChars cs <+: cs.dropWhile isBlank := List.rdropWhile_prefix isBlank _
  rw [cut.getElem nonempty]
  exact List.dropWhile_eq_self_iff.mp (List.dropWhile_idempotent isBlank cs)
    (nonempty.trans_le cut.length_le)

theorem rdropWhile_trimChars (cs : List Char) :
    (trimChars cs).rdropWhile isBlank = trimChars cs :=
  List.rdropWhile_idempotent isBlank _

theorem trimChars_trimChars (cs : List Char) : trimChars (trimChars cs) = trimChars cs := by
  calc trimChars (trimChars cs)
      = ((trimChars cs).dropWhile isBlank).rdropWhile isBlank := rfl
    _ = (trimChars cs).rdropWhile isBlank := by rw [dropWhile_trimChars]
    _ = trimChars cs := rdropWhile_trimChars cs

theorem trim_trim (s : String) : trim (trim s) = trim s := by
  rw [trim, toList_trim, trimChars_trimChars]
  rfl

/-- The pieces between separators hold no separator. -/
theorem not_mem_of_mem_splitOn {a : Char} {cs piece : List Char} (member : piece ∈ cs.splitOn a) :
    a ∉ piece := by
  induction cs generalizing piece with
  | nil =>
    have empty : piece = [] := by simpa using member
    simp [empty]
  | cons c cs ih =>
    rw [List.splitOn_cons_eq_if_modifyHead] at member
    by_cases same : c = a
    · simp only [same, beq_self_eq_true, if_true] at member
      rcases List.mem_cons.mp member with rfl | later
      · simp
      · exact ih later
    · obtain ⟨first, rest, pieces⟩ := List.exists_cons_of_ne_nil (List.splitOn_ne_nil a cs)
      simp only [beq_iff_eq, same, if_false, pieces, List.modifyHead_cons] at member
      rcases List.mem_cons.mp member with rfl | later
      · have inFirst : a ∉ first := ih (by rw [pieces]; exact List.mem_cons_self ..)
        simpa [Ne.symm same] using inFirst
      · exact ih (by rw [pieces]; exact List.mem_cons_of_mem _ later)

/-- A text that stands for one DUT as it is: it holds no separator, and no blank at its ends. -/
structure IsPlain (value : String) : Prop where
  undivided : '|' ∉ value.toList
  trimmed : trim value = value

theorem dutParts_of_undivided {value : String} (undivided : '|' ∉ value.toList) :
    dutParts value = [trim value] := by
  have noSeparator : dutSeparator ∉ value.toList := undivided
  rw [dutParts, List.splitOn_eq_singleton noSeparator, List.map_singleton, String.ofList_toList]

theorem IsPlain.dutParts {value : String} (plain : IsPlain value) : dutParts value = [value] := by
  rw [dutParts_of_undivided plain.undivided, plain.trimmed]

theorem isPlain_of_mem_dutParts {part value : String} (member : part ∈ dutParts value) :
    IsPlain part := by
  obtain ⟨piece, inside, rfl⟩ := List.mem_map.mp member
  refine ⟨?_, trim_trim _⟩
  rw [toList_trim, String.toList_ofList]
  exact fun inTrimmed => not_mem_of_mem_splitOn inside ((trimChars_sublist piece).mem inTrimmed)

/-- A part of a text is a text of one part, which is that part itself. -/
theorem dutParts_of_mem {part value : String} (member : part ∈ dutParts value) :
    dutParts part = [part] :=
  (isPlain_of_mem_dutParts member).dutParts

/-- A text has a part for each of a number of DUTs: one for all of them, or one for each. -/
def PartsFit (value : String) (count : Nat) : Prop :=
  (dutParts value).length = 1 ∨ (dutParts value).length = count

instance (value : String) (count : Nat) : Decidable (PartsFit value count) :=
  inferInstanceAs (Decidable (_ ∨ _))

/-- The part of a text that is meant for a DUT. A single part is meant for all of them. -/
def partFor (value : String) (index : Nat) : String :=
  match dutParts value with
  | [part] => part
  | parts => parts.getD index ""

variable {value part field : String} {parts : List String} {count index : Nat}

theorem partFor_of_single (single : dutParts value = [part]) : partFor value index = part := by
  rw [partFor, single]

theorem partFor_of_many (many : (dutParts value).length ≠ 1) :
    partFor value index = (dutParts value).getD index "" := by
  unfold partFor
  split
  · rename_i single
    simp [single] at many
  · rfl

theorem IsPlain.partFor (plain : IsPlain value) (index : Nat) : partFor value index = value :=
  partFor_of_single plain.dutParts

theorem IsPlain.partsFit (plain : IsPlain value) (count : Nat) : PartsFit value count :=
  Or.inl (by rw [plain.dutParts]; rfl)

theorem partFor_mem (fits : PartsFit value count) (inRange : index < count) :
    partFor value index ∈ dutParts value := by
  by_cases one : (dutParts value).length = 1
  · obtain ⟨part, single⟩ := List.length_eq_one_iff.mp one
    rw [partFor_of_single single, single]
    exact List.mem_singleton_self part
  · have length := fits.resolve_left one
    rw [partFor_of_many one, List.getD_eq_getElem _ _ (by omega)]
    exact List.getElem_mem _

theorem dutParts_partFor (fits : PartsFit value count) (inRange : index < count) :
    dutParts (partFor value index) = [partFor value index] :=
  dutParts_of_mem (partFor_mem fits inRange)

theorem partFor_partFor (fits : PartsFit value count) (inRange : index < count) (other : Nat) :
    partFor (partFor value index) other = partFor value index :=
  partFor_of_single (dutParts_partFor fits inRange)

/-- A text that fits is split into the parts of the DUTs in their order. -/
theorem splitPerDut_of_fits (positive : 0 < count) (limited : count ≤ dutLimit)
    (fits : PartsFit value count) :
    splitPerDut field value count = .ok ((List.range count).map (partFor value)) := by
  have nonzero : count ≠ 0 := by omega
  have below : ¬ dutLimit < count := by omega
  simp only [splitPerDut, if_neg nonzero, if_neg below]
  split
  · rename_i part single
    congr 1
    refine List.ext_getElem (by simp) fun i _ _ => ?_
    rw [List.getElem_replicate, List.getElem_map, partFor_of_single single]
  · rename_i many
    have several : (dutParts value).length ≠ 1 := fun one =>
      (List.length_eq_one_iff.mp one).elim many
    have length := fits.resolve_left several
    rw [if_pos length]
    congr 1
    refine List.ext_getElem (by simp [length]) fun i inside _ => ?_
    rw [List.getElem_map, List.getElem_range, partFor_of_many several,
      List.getD_eq_getElem _ _ inside]

/-- A value is split for a number of DUTs in one of two ways. -/
theorem splitPerDut_cases (accepted : splitPerDut field value count = .ok parts) :
    (0 < count ∧ count ≤ dutLimit) ∧
      ((∃ part, dutParts value = [part] ∧ parts = List.replicate count part) ∨
        (dutParts value).length = count ∧ parts = dutParts value) := by
  by_cases zero : count = 0
  · rw [splitPerDut, if_pos zero] at accepted
    cases accepted
  by_cases above : dutLimit < count
  · rw [splitPerDut, if_neg zero, if_pos above] at accepted
    cases accepted
  refine ⟨⟨Nat.pos_of_ne_zero zero, Nat.le_of_not_lt above⟩, ?_⟩
  rw [splitPerDut, if_neg zero, if_neg above] at accepted
  split at accepted
  · rename_i part single
    cases accepted
    exact Or.inl ⟨part, single, rfl⟩
  · split at accepted
    · rename_i length
      cases accepted
      exact Or.inr ⟨length, rfl⟩
    · cases accepted

theorem splitPerDut_length (accepted : splitPerDut field value count = .ok parts) :
    parts.length = count := by
  obtain ⟨_, ⟨part, _, rfl⟩ | ⟨length, rfl⟩⟩ := splitPerDut_cases accepted
  · exact List.length_replicate
  · exact length

end DutFixtures
