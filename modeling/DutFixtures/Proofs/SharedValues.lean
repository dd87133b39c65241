import DutFixtures.Proofs.DutFaults
import DutFixtures.Proofs.JoinedTexts

namespace DutFixtures

/-- A value with a copy of a text for each of a number of DUTs. -/
def copiesFor (count : Nat) (value : String) : String :=
  joinPerDut (List.replicate count value)

/-- A value that says nothing about any DUT: it has one entry for all of them or one for
each, and there are only blanks in all entries. -/
structure IsBlankValue (value : String) (count : Nat) : Prop where
  entries : (value.toList.splitOn dutSeparator).length = 1 ∨
    (value.toList.splitOn dutSeparator).length = count
  blank : ∀ entry ∈ value.toList.splitOn dutSeparator, entry.all isBlank = true

instance (value : String) (count : Nat) : Decidable (IsBlankValue value count) :=
  decidable_of_iff (_ ∧ _) ⟨fun both => ⟨both.1, both.2⟩, fun blank => ⟨blank.1, blank.2⟩⟩

/-- Two ways to give a field that mean the same for each of a number of DUTs: a text without
separators and a copy of it for each DUT, or blank entries and no value at all. -/
inductive Respelled (count : Nat) : Option String → Option String → Prop
  | kept (value : Option String) : Respelled count value value
  | copied {value : String} (undivided : '|' ∉ value.toList) :
      Respelled count (some value) (some (copiesFor count value))
  | leftOut {value : String} (blank : IsBlankValue value count) :
      Respelled count (some value) none
  | filledIn {value : String} (blank : IsBlankValue value count) :
      Respelled count none (some value)

/-- A request for the same number of DUTs with some fields given in another way. The path of
the application cannot be left out. -/
structure DutRequest.RespelledAs (r other : DutRequest) : Prop where
  count : other.count = r.count
  appDir : Respelled r.count (some r.appDir) (some other.appDir)
  target : Respelled r.count r.target other.target
  config : Respelled r.count r.config other.config
  buildDir : Respelled r.count r.buildDir other.buildDir

section Parts

variable {value part : String} {count index : Nat}

theorem dutParts_copiesFor (positive : 0 < count) (undivided : '|' ∉ value.toList) :
    dutParts (copiesFor count value) = List.replicate count (trim value) := by
  have nonempty : List.replicate count value ≠ [] := by
    rw [Ne, List.replicate_eq_nil_iff]
    omega
  have pieces := splitOn_joinPerDut nonempty fun copy member =>
    (List.eq_of_mem_replicate member).symm ▸ undivided
  rw [dutParts, copiesFor, pieces, List.map_replicate, List.map_replicate, String.ofList_toList]

theorem partFor_of_replicate (parts : dutParts value = List.replicate count part)
    (inRange : index < count) : partFor value index = part := by
  by_cases one : count = 1
  · subst one
    exact partFor_of_single parts
  · have several : (dutParts value).length ≠ 1 := by rwa [parts, List.length_replicate]
    rw [partFor_of_many several, parts, List.getD_eq_getElem _ _ (by simpa using inRange),
      List.getElem_replicate]

theorem partFor_copiesFor (undivided : '|' ∉ value.toList) (inRange : index < count) :
    partFor (copiesFor count value) index = partFor value index := by
  have positive : 0 < count := Nat.zero_lt_of_lt inRange
  rw [partFor_of_replicate (dutParts_copiesFor positive undivided) inRange,
    partFor_of_single (dutParts_of_undivided undivided)]

theorem partsFit_of_undivided (undivided : '|' ∉ value.toList) : PartsFit value count :=
  Or.inl (by rw [dutParts_of_undivided undivided]; rfl)

theorem partsFit_copiesFor (positive : 0 < count) (undivided : '|' ∉ value.toList) :
    PartsFit (copiesFor count value) count :=
  Or.inr (by rw [dutParts_copiesFor positive undivided, List.length_replicate])

/-- Nothing is left of a text of blanks. -/
theorem trimChars_of_blank {cs : List Char} (blank : cs.all isBlank = true) :
    trimChars cs = [] := by
  have nothing : cs.dropWhile isBlank = [] :=
    List.dropWhile_eq_nil_iff.mpr (List.all_eq_true.mp blank)
  rw [trimChars, nothing, List.reverse_nil, List.dropWhile_nil, List.reverse_nil]

theorem IsBlankValue.dutParts_eq (blank : IsBlankValue value count) :
    ∀ part ∈ dutParts value, part = "" := by
  intro part member
  obtain ⟨entry, inside, rfl⟩ := List.mem_map.mp member
  rw [trim, String.toList_ofList, trimChars_of_blank (blank.blank entry inside), String.ofList_nil]

theorem IsBlankValue.partsFit (blank : IsBlankValue value count) : PartsFit value count := by
  have length : (dutParts value).length = (value.toList.splitOn dutSeparator).length :=
    List.length_map _
  rw [PartsFit, length]
  exact blank.entries

theorem IsBlankValue.partFor_eq (blank : IsBlankValue value count) (inRange : index < count) :
    partFor value index = "" :=
  blank.dutParts_eq _ (partFor_mem blank.partsFit inRange)

end Parts

section Requests

variable {r other : DutRequest} {value given : Option String} {count index : Nat}

/-- What is wrong with a field if it is given. -/
def fieldFault? (name : String) (count : Nat) (value : Option String) : Option Failure :=
  (value.map (GivenField.mk name)).bind fun field => field.mismatch? count

theorem fieldFault?_of_fits {name text : String} (fits : PartsFit text count) :
    fieldFault? name count (some text) = none := by
  have sound : ¬ (GivenField.mk name text).Misfits count := (partsFit_iff name).mp fits
  rw [fieldFault?, Option.map_some, Option.bind_some, GivenField.mismatch?, if_neg sound]

/-- The fields are looked at in their order, whether they are given or not. -/
theorem DutRequest.fault?_eq (r : DutRequest) :
    r.fault? =
      if r.count = 0 then some .noDut
      else if dutLimit < r.count then some (.tooManyDuts r.count)
      else (fieldFault? "app_path" r.count (some r.appDir)).or
        ((fieldFault? "target" r.count r.target).or
          ((fieldFault? "config" r.count r.config).or
            (fieldFault? "build_dir" r.count r.buildDir))) := by
  have alone (name : String) (value : Option String) :
      ((value.map (GivenField.mk name)).toList.findSome? fun f => f.mismatch? r.count) =
        fieldFault? name r.count value := by
    cases value with
    | none => rfl
    | some text => rw [Option.map_some, Option.toList_some, List.findSome?_singleton]; rfl
  rw [fault?, givenFields, List.findSome?_append, List.findSome?_append, List.findSome?_append,
    List.findSome?_singleton, alone, alone, alone]
  rfl

theorem Respelled.fieldFault?_eq (same : Respelled count value given) (positive : 0 < count)
    (name : String) : fieldFault? name count given = fieldFault? name count value := by
  cases same with
  | kept => rfl
  | copied undivided =>
    rw [fieldFault?_of_fits (partsFit_copiesFor positive undivided),
      fieldFault?_of_fits (partsFit_of_undivided undivided)]
  | leftOut blank => exact (fieldFault?_of_fits blank.partsFit).symm
  | filledIn blank => exact fieldFault?_of_fits blank.partsFit

theorem Respelled.partFor_eq {value given : String}
    (same : Respelled count (some value) (some given)) (inRange : index < count) :
    partFor given index = partFor value index := by
  cases same with
  | kept => rfl
  | copied undivided => exact partFor_copiesFor undivided inRange

/-- An optional field comes to the same part, and a blank part is as good as none. -/
theorem Respelled.part_eq (same : Respelled count value given) (inRange : index < count) :
    unlessEmpty (given.map fun text => partFor text index) =
      unlessEmpty (value.map fun text => partFor text index) := by
  cases same with
  | kept => rfl
  | copied undivided => rw [Option.map_some, Option.map_some, partFor_copiesFor undivided inRange]
  | leftOut blank =>
    rw [Option.map_some, Option.map_none, blank.partFor_eq inRange, unlessEmpty_empty,
      unlessEmpty_none]
  | filledIn blank =>
    rw [Option.map_some, Option.map_none, blank.partFor_eq inRange, unlessEmpty_empty,
      unlessEmpty_none]

theorem DutRequest.RespelledAs.fault?_eq (same : r.RespelledAs other) :
    other.fault? = r.fault? := by
  rw [other.fault?_eq, r.fault?_eq, same.count]
  by_cases zero : r.count = 0
  · rw [if_pos zero, if_pos zero]
  · have positive : 0 < r.count := Nat.pos_of_ne_zero zero
    rw [same.appDir.fieldFault?_eq positive, same.target.fieldFault?_eq positive,
      same.config.fieldFault?_eq positive, same.buildDir.fieldFault?_eq positive]

theorem DutRequest.RespelledAs.contextFor_eq (same : r.RespelledAs other)
    (inRange : index < other.count) : other.contextFor index = r.contextFor index := by
  rw [same.count] at inRange
  simp only [contextFor, configFor, effectiveConfig, same.appDir.partFor_eq inRange,
    same.target.part_eq inRange, same.config.part_eq inRange, same.buildDir.part_eq inRange]

end Requests

/-- A value without separators is as good as a copy of it for each DUT, for any choice of the
fields, and blank values for all DUTs are as good as none. The runs are the same in all their
looks and records, or they fail alike. -/
theorem DutRequest.run_respelled (r other : DutRequest) (same : r.RespelledAs other)
    (isDir : String → Bool) : other.run isDir = r.run isDir := by
  have contexts (index : Nat) (inRange : index < other.count) :
      other.contextFor index = r.contextFor index := same.contextFor_eq inRange
  exact run_congr same.count same.fault?_eq contexts isDir

/-- Two DUTs with one application and one target, of which each is given twice. A blank
configuration for each comes in, and the directories stay. -/
theorem DutRequest.run_respelled_twoDuts :
    let r : DutRequest :=
      { count := 2, appDir := " app", target := some "esp32", buildDir := some "out|" }
    let other : DutRequest :=
      { count := 2, appDir := " app| app", target := some "esp32|esp32",
        config := some " |\u3000", buildDir := some "out|" }
    let isDir : String → Bool := fun path => path == "app/out" || path == "app/build_esp32"
    r.RespelledAs other ∧ other.run isDir = r.run isDir := by
  intro r other isDir
  have same : r.RespelledAs other :=
    { count := rfl
      appDir := .copied (by decide +kernel)
      target := .copied (by decide +kernel)
      config := .filledIn (by decide +kernel)
      buildDir := .kept _ }
  exact ⟨same, run_respelled r other same isDir⟩

end DutFixtures
