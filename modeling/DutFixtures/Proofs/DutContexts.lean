import DutFixtures.Proofs.DutParts

namespace DutFixtures

/-- A request for one up to the largest number of DUTs, of which every field that is
given has one part for all DUTs or one for each. -/
structure DutRequest.Admissible (r : DutRequest) : Prop where
  positive : 1 ≤ r.count
  limited : r.count ≤ dutLimit
  appDir : PartsFit r.appDir r.count
  target : ∀ value ∈ r.target, PartsFit value r.count
  config : ∀ value ∈ r.config, PartsFit value r.count
  buildDir : ∀ value ∈ r.buildDir, PartsFit value r.count

theorem DutRequest.admissible_iff {r : DutRequest} :
    r.Admissible ↔ 1 ≤ r.count ∧ r.count ≤ dutLimit ∧ PartsFit r.appDir r.count ∧
      (∀ value ∈ r.target, PartsFit value r.count) ∧
      (∀ value ∈ r.config, PartsFit value r.count) ∧
      ∀ value ∈ r.buildDir, PartsFit value r.count := by
  constructor
  · intro admissible
    exact ⟨admissible.positive, admissible.limited, admissible.appDir, admissible.target,
      admissible.config, admissible.buildDir⟩
  · intro parts
    obtain ⟨positive, limited, appDir, target, config, buildDir⟩ := parts
    exact ⟨positive, limited, appDir, target, config, buildDir⟩

instance (r : DutRequest) : Decidable r.Admissible :=
  decidable_of_iff _ DutRequest.admissible_iff.symm

/-- The configuration that a request names for a DUT. -/
def DutRequest.configFor (r : DutRequest) (index : Nat) : String :=
  effectiveConfig (r.config.map fun value => partFor value index)

/-- What a request asks to be searched for a DUT. -/
def DutRequest.contextFor (r : DutRequest) (index : Nat) : BuildContext where
  appDir := partFor r.appDir index
  target := unlessEmpty (r.target.map fun value => partFor value index)
  config := some (r.configFor index)
  chosenDir := unlessEmpty (r.buildDir.map fun value => partFor value index)

/-- The values of an admissible request, each list with one entry for each DUT. -/
def DutRequest.partValues (r : DutRequest) : DutValues where
  appDirs := (List.range r.count).map (partFor r.appDir)
  targets := r.target.map fun value => (List.range r.count).map (partFor value)
  configs := (List.range r.count).map fun index =>
    unlessEmpty (r.config.map fun value => partFor value index)
  buildDirs := (List.range r.count).map fun index =>
    unlessEmpty (r.buildDir.map fun value => partFor value index)

@[simp]
theorem unlessEmpty_none : unlessEmpty none = none := rfl

@[simp]
theorem unlessEmpty_empty : unlessEmpty (some "") = none := rfl

@[simp]
theorem unlessEmpty_unlessEmpty (value : Option String) :
    unlessEmpty (unlessEmpty value) = unlessEmpty value := by
  simp [unlessEmpty]

theorem splitIfGiven_of_fits {field : String} {value : Option String} {count : Nat}
    (positive : 0 < count) (limited : count ≤ dutLimit)
    (fits : ∀ text ∈ value, PartsFit text count) :
    splitIfGiven field value count =
      .ok ((List.range count).map fun index =>
        unlessEmpty (value.map fun text => partFor text index)) := by
  cases value with
  | none =>
    simp only [splitIfGiven, Option.map_none]
    congr 1
    exact List.ext_getElem (by simp) fun i _ _ => by simp [unlessEmpty]
  | some text =>
    rw [splitIfGiven, splitPerDut_of_fits positive limited (fits text rfl)]
    simp only [Except.map, List.map_map, Option.map_some]
    rfl

/-- All fields of an admissible request are split, and no list comes out too short. -/
theorem DutRequest.values_of_admissible {r : DutRequest} (admissible : r.Admissible) :
    r.values = .ok r.partValues := by
  have positive : 0 < r.count := admissible.positive
  have targets : (r.target.mapM fun value => splitPerDut "target" value r.count) =
      .ok (r.target.map fun value => (List.range r.count).map (partFor value)) := by
    cases given : r.target with
    | none => rfl
    | some value =>
      rw [Option.mapM_some,
        splitPerDut_of_fits positive admissible.limited (admissible.target value given)]
      rfl
  rw [values, splitPerDut_of_fits positive admissible.limited admissible.appDir, targets,
    splitIfGiven_of_fits positive admissible.limited admissible.config,
    splitIfGiven_of_fits positive admissible.limited admissible.buildDir]
  rfl

theorem DutRequest.configOf_partValues {r : DutRequest} {index : Nat} (inRange : index < r.count) :
    r.partValues.configOf index = r.configFor index := by
  have entry : r.partValues.configs.getD index none =
      unlessEmpty (r.config.map fun value => partFor value index) := by
    simp [partValues, List.getD_eq_getElem?_getD, inRange]
  rw [DutValues.configOf, entry, effectiveConfig, unlessEmpty_unlessEmpty]
  rfl

/-- A single DUT takes the first target, which is its own one. -/
theorem pickTarget_of_getElem? {targets : List String} {target : String} {count index : Nat}
    (inRange : index < count) (there : targets[index]? = some target) :
    pickTarget targets count index = .ok target := by
  have place : (if count = 1 then 0 else index) = index := by
    split <;> omega
  rw [pickTarget, place, there]

theorem pickTarget_of_inRange {count index : Nat} (inRange : index < count)
    (targetOf : Nat → String) :
    pickTarget ((List.range count).map targetOf) count index = .ok (targetOf index) :=
  pickTarget_of_getElem? inRange (by simp [inRange])

theorem DutRequest.context_partValues {r : DutRequest} {index : Nat} (inRange : index < r.count) :
    r.partValues.context r.count index = .ok (r.contextFor index) := by
  have target : (r.partValues.targets.mapM fun targets => pickTarget targets r.count index) =
      .ok (r.target.map fun value => partFor value index) := by
    cases given : r.target with
    | none => simp [partValues, given]; rfl
    | some value =>
      simp only [partValues, given, Option.map_some, Option.mapM_some,
        pickTarget_of_inRange inRange]
      rfl
  have appDir : r.partValues.appDirs.getD index "" = partFor r.appDir index := by
    simp [partValues, List.getD_eq_getElem?_getD, inRange]
  have buildDir : r.partValues.buildDirs.getD index none =
      unlessEmpty (r.buildDir.map fun value => partFor value index) := by
    simp [partValues, List.getD_eq_getElem?_getD, inRange]
  rw [DutValues.context, target, appDir, buildDir, configOf_partValues inRange]
  rfl

end DutFixtures
