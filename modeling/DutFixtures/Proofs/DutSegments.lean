import DutFixtures.Proofs.DutFaults
import DutFixtures.Proofs.JoinedTexts
import Mathlib.Data.List.Forall2

namespace DutFixtures

/-- A part is what a text is without the blanks at both of its ends. -/
structure TrimmedFrom (text part : String) : Prop where
  cut : ∃ before after, text.toList = before ++ (part.toList ++ after) ∧
    (∀ c ∈ before, isBlank c = true) ∧ ∀ c ∈ after, isBlank c = true
  unpadded : Unpadded part.toList

/-- Texts without a separator that make up a value when they are joined. -/
structure SegmentsOf (value : String) (segments : List String) : Prop where
  undivided : ∀ segment ∈ segments, '|' ∉ segment.toList
  joined : joinPerDut segments = value

variable {field value : String} {count : Nat} {parts segments : List String}

theorem trimmedFrom_trim (text : String) : TrimmedFrom text (trim text) := by
  refine ⟨⟨text.toList.takeWhile isBlank, (text.toList.dropWhile isBlank).rtakeWhile isBlank,
    ?_, fun c => List.mem_takeWhile_imp, fun c => List.mem_rtakeWhile_imp⟩,
    trim_eq_self_iff.mp (trim_trim text)⟩
  have middle : trimChars text.toList ++ (text.toList.dropWhile isBlank).rtakeWhile isBlank =
      text.toList.dropWhile isBlank := List.rdropWhile_append_rtakeWhile
  rw [toList_trim, middle, List.takeWhile_append_dropWhile]

/-- A value with a separator is made up of segments in one way only. -/
theorem segmentsOf_iff (divided : '|' ∈ value.toList) :
    SegmentsOf value segments ↔
      segments = (value.toList.splitOn dutSeparator).map String.ofList := by
  constructor
  · rintro ⟨undivided, rfl⟩
    have nonempty : segments ≠ [] := by
      rintro rfl
      exact absurd divided (by decide +kernel)
    rw [splitOn_joinPerDut nonempty undivided, List.map_map]
    simp [Function.comp_def]
  · rintro rfl
    constructor
    · intro segment member
      obtain ⟨piece, inside, rfl⟩ := List.mem_map.mp member
      rw [String.toList_ofList]
      exact not_mem_of_mem_splitOn inside
    · rw [← String.toList_inj, joinPerDut, String.toList_intercalate, List.map_map]
      have pieces : (value.toList.splitOn dutSeparator).map (String.toList ∘ String.ofList) =
          value.toList.splitOn dutSeparator := by simp [Function.comp_def]
      rw [pieces]
      exact List.intercalate_splitOn dutSeparator

theorem splitPerDut_ok_iff :
    (∃ parts, splitPerDut field value count = .ok parts) ↔
      (0 < count ∧ count ≤ dutLimit) ∧ PartsFit value count := by
  constructor
  · rintro ⟨parts, accepted⟩
    obtain ⟨inRange, ⟨part, single, _⟩ | ⟨length, _⟩⟩ := splitPerDut_cases accepted
    · exact ⟨inRange, Or.inl (by rw [single]; rfl)⟩
    · exact ⟨inRange, Or.inr length⟩
  · rintro ⟨⟨positive, limited⟩, fits⟩
    exact ⟨_, splitPerDut_of_fits positive limited fits⟩

theorem isPlain_of_splitPerDut (accepted : splitPerDut field value count = .ok parts) :
    ∀ part ∈ parts, IsPlain part := by
  intro part member
  obtain ⟨_, ⟨single, one, rfl⟩ | ⟨_, rfl⟩⟩ := splitPerDut_cases accepted
  · rw [List.eq_of_mem_replicate member]
    exact isPlain_of_mem_dutParts (by rw [one]; exact List.mem_singleton_self single)
  · exact isPlain_of_mem_dutParts member

/-- A value without a separator is the same for all DUTs. -/
theorem splitPerDut_undivided (accepted : splitPerDut field value count = .ok parts)
    (undivided : '|' ∉ value.toList) : ∀ part ∈ parts, TrimmedFrom value part := by
  have whole := dutParts_of_undivided undivided
  intro part member
  obtain ⟨_, ⟨single, one, rfl⟩ | ⟨_, rfl⟩⟩ := splitPerDut_cases accepted
  · rw [List.eq_of_mem_replicate member, ← List.singleton_inj.mp (whole.symm.trans one)]
    exact trimmedFrom_trim value
  · rw [whole, List.mem_singleton] at member
    rw [member]
    exact trimmedFrom_trim value

/-- A value with a separator has a segment for each DUT, in their order. -/
theorem splitPerDut_divided (accepted : splitPerDut field value count = .ok parts)
    (divided : '|' ∈ value.toList) (segmented : SegmentsOf value segments) :
    List.Forall₂ TrimmedFrom segments parts := by
  have several : 1 < (dutParts value).length := by
    have separators : 0 < value.toList.count '|' := List.count_pos_iff.mpr divided
    have length : (dutParts value).length = 1 + value.toList.count '|' := length_dutParts field value
    omega
  obtain ⟨_, ⟨part, one, _⟩ | ⟨_, rfl⟩⟩ := splitPerDut_cases accepted
  · rw [one] at several
    exact absurd several (Nat.lt_irrefl 1)
  · rw [(segmentsOf_iff divided).mp segmented, dutParts, List.forall₂_map_left_iff,
      List.forall₂_map_right_iff, List.forall₂_same]
    exact fun piece _ => trimmedFrom_trim (String.ofList piece)

/-- Values that stand for one DUT each are given back when they are joined and split. -/
theorem splitPerDut_joinPerDut (plain : ∀ part ∈ parts, IsPlain part) (positive : 0 < parts.length)
    (limited : parts.length ≤ dutLimit) :
    splitPerDut field (joinPerDut parts) parts.length = .ok parts := by
  have nonempty : parts ≠ [] := List.ne_nil_of_length_pos positive
  rw [splitPerDut_of_fits positive limited (partsFit_joinPerDut plain nonempty)]
  refine congrArg Except.ok (List.ext_getElem (by simp) fun i _ inside => ?_)
  rw [List.getElem_map, List.getElem_range, partFor_joinPerDut plain inside]

/-- A value is split for one to 64 DUTs if it has no separator or one less than there are DUTs,
and in no other case. Each DUT gets the value, or its own segment, without the blanks around
it. Joining is the inverse of splitting on all values that can come out of it. -/
theorem splitPerDut_exact (field value : String) (count : Nat) :
    ((∃ parts, splitPerDut field value count = .ok parts) ↔
      (1 ≤ count ∧ count ≤ 64) ∧
        (value.toList.count '|' = 0 ∨ value.toList.count '|' = count - 1)) ∧
    (∀ parts, splitPerDut field value count = .ok parts →
      parts.length = count ∧
      (∀ part ∈ parts, '|' ∉ part.toList ∧ Unpadded part.toList) ∧
      ('|' ∉ value.toList → ∀ part ∈ parts, TrimmedFrom value part) ∧
      ('|' ∈ value.toList → ∃ segments, (∀ other, SegmentsOf value other ↔ other = segments) ∧
        List.Forall₂ TrimmedFrom segments parts) ∧
      splitPerDut field (joinPerDut parts) count = .ok parts) ∧
    (∀ values : List String, values.length = count → 1 ≤ count → count ≤ 64 →
      (∀ text ∈ values, '|' ∉ text.toList ∧ trim text = text) →
      splitPerDut field (joinPerDut values) count = .ok values) := by
  refine ⟨?_, ?_, ?_⟩
  · have length : (dutParts value).length = 1 + value.toList.count '|' := length_dutParts field value
    rw [splitPerDut_ok_iff, PartsFit, length, dutLimit]
    omega
  · intro parts accepted
    have plain := isPlain_of_splitPerDut accepted
    obtain ⟨⟨positive, limited⟩, _⟩ := splitPerDut_cases accepted
    have length := splitPerDut_length accepted
    refine ⟨length, ?_, splitPerDut_undivided accepted, ?_, ?_⟩
    · exact fun part member => ⟨(plain part member).undivided, (plain part member).unpadded⟩
    · intro divided
      exact ⟨_, fun other => segmentsOf_iff divided,
        splitPerDut_divided accepted divided ((segmentsOf_iff divided).mpr rfl)⟩
    · subst count
      exact splitPerDut_joinPerDut plain positive limited
  · rintro values rfl positive limited plain
    exact splitPerDut_joinPerDut (fun text member => ⟨(plain text member).1, (plain text member).2⟩)
      positive limited

/-- Blanks of any script are cut off, and empty segments count at both ends. -/
theorem splitPerDut_exact_blanks :
    let parts := ["", "esp32", "", ""]
    splitPerDut "target" "|\u3000esp32 | |" 4 = .ok parts ∧
      splitPerDut "target" (joinPerDut parts) 4 = .ok parts := by
  intro parts
  have accepted : splitPerDut "target" "|\u3000esp32 | |" 4 = .ok parts := by decide +kernel
  obtain ⟨-, outcome, -⟩ := splitPerDut_exact "target" "|\u3000esp32 | |" 4
  obtain ⟨-, -, -, -, again⟩ := outcome parts accepted
  exact ⟨accepted, again⟩

end DutFixtures
