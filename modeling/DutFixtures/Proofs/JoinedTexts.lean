import DutFixtures.Proofs.DutParts

namespace DutFixtures

/-- A text that neither begins nor ends with a blank. -/
structure Unpadded (cs : List Char) : Prop where
  first : ∀ c ∈ cs.head?, isBlank c = false
  last : ∀ c ∈ cs.getLast?, isBlank c = false

theorem trimChars_eq_self_iff {cs : List Char} : trimChars cs = cs ↔ Unpadded cs := by
  have front : cs.dropWhile isBlank = cs ↔ ∀ c ∈ cs.head?, isBlank c = false := by
    cases cs <;> simp [List.dropWhile_eq_self_iff]
  have back : cs.rdropWhile isBlank = cs ↔ ∀ c ∈ cs.getLast?, isBlank c = false := by
    rw [List.rdropWhile_eq_self_iff]
    constructor
    · intro last c member
      obtain ⟨nonempty, rfl⟩ := List.mem_getLast?_eq_getLast member
      simpa using last nonempty
    · intro last nonempty
      simpa using last _ (List.getLast_mem_getLast? nonempty)
  constructor
  · intro trimmed
    have dropped := dropWhile_trimChars cs
    have cut := rdropWhile_trimChars cs
    rw [trimmed] at dropped cut
    exact ⟨front.mp dropped, back.mp cut⟩
  · intro unpadded
    calc trimChars cs = (cs.dropWhile isBlank).rdropWhile isBlank := rfl
      _ = cs.rdropWhile isBlank := by rw [front.mpr unpadded.first]
      _ = cs := back.mpr unpadded.last

theorem trim_eq_self_iff {s : String} : trim s = s ↔ Unpadded s.toList := by
  rw [← trimChars_eq_self_iff, ← toList_trim, String.toList_inj]

theorem IsPlain.unpadded {value : String} (plain : IsPlain value) : Unpadded value.toList :=
  trim_eq_self_iff.mp plain.trimmed

/-- A plain text that is not empty, so that it does not stand for a missing value. -/
structure IsPlainName (value : String) : Prop extends IsPlain value where
  nonempty : value ≠ ""

/-- The ends of two names put together are ends of theirs. -/
theorem IsPlainName.append {a b : String} (first : IsPlainName a) (second : IsPlainName b) :
    IsPlainName (a ++ b) := by
  have firstFilled : a.toList ≠ [] := by simpa using first.nonempty
  have secondFilled : b.toList ≠ [] := by simpa using second.nonempty
  have undivided : '|' ∉ (a ++ b).toList := by
    rw [String.toList_append, List.mem_append]
    exact fun member => member.elim first.undivided second.undivided
  have unpadded : Unpadded (a ++ b).toList := by
    rw [String.toList_append]
    refine ⟨?_, ?_⟩
    · rw [List.head?_append_of_ne_nil _ firstFilled]
      exact first.unpadded.first
    · rw [List.getLast?_append_of_ne_nil _ secondFilled]
      exact second.unpadded.last
  refine ⟨⟨undivided, trim_eq_self_iff.mpr unpadded⟩, fun empty => ?_⟩
  exact first.nonempty (String.append_eq_empty_iff.mp empty).1

/-- The values of several DUTs in one text. -/
def joinPerDut (values : List String) : String :=
  "|".intercalate values

/-- Texts without separators are the pieces of the text that joins them. -/
theorem splitOn_joinPerDut {values : List String} (nonempty : values ≠ [])
    (undivided : ∀ value ∈ values, '|' ∉ value.toList) :
    (joinPerDut values).toList.splitOn dutSeparator = values.map String.toList := by
  rw [joinPerDut, String.toList_intercalate]
  exact List.splitOn_intercalate dutSeparator (List.forall_mem_map.mpr undivided)
    (by simpa using nonempty)

section Joined

variable {values : List String} (plain : ∀ value ∈ values, IsPlain value)
include plain

theorem dutParts_joinPerDut (nonempty : values ≠ []) : dutParts (joinPerDut values) = values := by
  have trimmed : ∀ value ∈ values, trim (String.ofList value.toList) = value := by
    intro value member
    rw [String.ofList_toList, (plain value member).trimmed]
  rw [dutParts, splitOn_joinPerDut nonempty fun value member => (plain value member).undivided,
    List.map_map]
  exact (List.map_congr_left trimmed).trans (List.map_id values)

theorem partsFit_joinPerDut (nonempty : values ≠ []) :
    PartsFit (joinPerDut values) values.length :=
  Or.inr (by rw [dutParts_joinPerDut plain nonempty])

/-- Each DUT finds its own value in the text that joins them, also if it is the only one. -/
theorem partFor_joinPerDut {index : Nat} (inRange : index < values.length) :
    partFor (joinPerDut values) index = values[index] := by
  have parts := dutParts_joinPerDut plain (List.ne_nil_of_length_pos (Nat.zero_lt_of_lt inRange))
  by_cases one : values.length = 1
  · obtain ⟨value, rfl⟩ := List.length_eq_one_iff.mp one
    have zero : index = 0 := Nat.lt_one_iff.mp inRange
    subst zero
    exact partFor_of_single parts
  · rw [partFor_of_many (by rwa [parts]), parts, List.getD_eq_getElem _ _ inRange]

end Joined

end DutFixtures
