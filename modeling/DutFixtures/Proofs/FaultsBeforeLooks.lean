import DutFixtures.Proofs.DutFaults

namespace DutFixtures

/-- A step of a run with the lengths of the lists that it makes to hold an entry for each
DUT. Lists that are made before the step fails count as well. -/
structure Measured (α : Type) where
  lengths : List Nat
  outcome : Except Failure α

namespace Measured

variable {α β : Type} {count : Nat}

def split (made : Except Failure (List α)) : Measured (List α) where
  lengths := made.toOption.toList.map List.length
  outcome := made

def andThen (first : Measured α) (next : α → Measured β) : Measured β :=
  match first.outcome with
  | .error e => ⟨first.lengths, .error e⟩
  | .ok value => ⟨first.lengths ++ (next value).lengths, (next value).outcome⟩

/-- All lists have the given length. -/
def AllOf (m : Measured α) (count : Nat) : Prop :=
  ∀ n ∈ m.lengths, n = count

theorem andThen_outcome (first : Measured α) (next : α → Measured β) :
    (first.andThen next).outcome = first.outcome >>= fun value => (next value).outcome := by
  unfold andThen
  cases first.outcome <;> rfl

theorem AllOf.andThen {first : Measured α} {next : α → Measured β} (here : first.AllOf count)
    (later : ∀ value, (next value).AllOf count) : (first.andThen next).AllOf count := by
  intro n member
  unfold Measured.andThen at member
  split at member
  · exact here n member
  · rename_i value _
    rcases List.mem_append.mp member with old | new
    · exact here n old
    · exact later value n new

theorem AllOf.split {made : Except Failure (List α)}
    (length : ∀ values, made = .ok values → values.length = count) :
    (Measured.split made).AllOf count := by
  intro n member
  cases made with
  | error e => simp [Measured.split, Except.toOption] at member
  | ok values =>
    simp only [Measured.split, Except.toOption, Option.toList_some, List.map_singleton,
      List.mem_singleton] at member
    rw [member, length values rfl]

end Measured

theorem splitIfGiven_length {field : String} {value : Option String} {count : Nat}
    {values : List (Option String)} (split : splitIfGiven field value count = .ok values) :
    values.length = count := by
  cases value with
  | none =>
    cases split
    exact List.length_replicate
  | some text =>
    rw [splitIfGiven] at split
    cases parts : splitPerDut field text count with
    | error e => rw [parts] at split; cases split
    | ok list =>
      rw [parts] at split
      cases split
      rw [List.length_map, splitPerDut_length parts]

def DutRequest.measuredTargets (r : DutRequest) : Measured (Option (List String)) :=
  match r.target with
  | none => ⟨[], .ok none⟩
  | some value =>
    (Measured.split (splitPerDut "target" value r.count)).andThen fun targets =>
      ⟨[], .ok (some targets)⟩

/-- The values of a request and the room for the records of its DUTs, with all lists that
are made on the way. -/
def DutRequest.measured (r : DutRequest) : Measured DutValues :=
  (Measured.split (splitPerDut "app_path" r.appDir r.count)).andThen fun appDirs =>
  r.measuredTargets.andThen fun targets =>
  (Measured.split (splitIfGiven "config" r.config r.count)).andThen fun configs =>
  (Measured.split (splitIfGiven "build_dir" r.buildDir r.count)).andThen fun buildDirs =>
  ⟨[r.count], .ok ⟨appDirs, targets, configs, buildDirs⟩⟩

namespace DutRequest

theorem measured_outcome (r : DutRequest) : r.measured.outcome = r.values := by
  have targets : r.measuredTargets.outcome =
      r.target.mapM fun value => splitPerDut "target" value r.count := by
    unfold measuredTargets
    cases r.target with
    | none => rfl
    | some value =>
      rw [Measured.andThen_outcome, Option.mapM_some]
      rfl
  simp only [measured, values, Measured.andThen_outcome, targets]
  rfl

theorem measured_allOf (r : DutRequest) : r.measured.AllOf r.count := by
  have perDut (field value : String) :
      (Measured.split (splitPerDut field value r.count)).AllOf r.count :=
    .split fun _ => splitPerDut_length
  have ifGiven (field : String) (value : Option String) :
      (Measured.split (splitIfGiven field value r.count)).AllOf r.count :=
    .split fun _ => splitIfGiven_length
  have none {α : Type} (value : α) : Measured.AllOf ⟨[], .ok value⟩ r.count :=
    fun _ member => nomatch member
  -- Step by step along the definition; only the targets have a case of their own.
  refine (perDut _ _).andThen fun appDirs => Measured.AllOf.andThen ?_ fun targets =>
    (ifGiven _ _).andThen fun configs => (ifGiven _ _).andThen fun buildDirs => ?_
  · unfold measuredTargets
    split
    · exact none _
    · exact (perDut _ _).andThen fun targets => none _
  · intro n member
    exact List.mem_singleton.mp member

/-- The application path is always there and is split first, so a number of DUTs that is
out of range is met before any list is made. -/
theorem measured_outOfRange {r : DutRequest} (outOfRange : r.count = 0 ∨ dutLimit < r.count) :
    r.measured.lengths = [] := by
  have refused : ∃ e, splitPerDut "app_path" r.appDir r.count = .error e := by
    rcases outOfRange with zero | above
    · exact ⟨_, by rw [splitPerDut, if_pos zero]⟩
    · exact ⟨_, by rw [splitPerDut, if_neg (by omega), if_pos above]⟩
  obtain ⟨e, first⟩ := refused
  rw [measured, first]
  rfl

theorem measured_inRange {r : DutRequest} {n : Nat} (member : n ∈ r.measured.lengths) :
    n = r.count ∧ 1 ≤ n ∧ n ≤ 64 := by
  have range : ¬ (r.count = 0 ∨ dutLimit < r.count) := by
    intro outOfRange
    rw [measured_outOfRange outOfRange] at member
    nomatch member
  have length := r.measured_allOf n member
  have limit : dutLimit = 64 := rfl
  omega

/-- What is wrong with a request is found before anything is looked at, the number of DUTs
first and then the first field that does not fit it. All other failures come from looks. The
lists that are made have an entry for each DUT, and there are none for a number of DUTs that is
out of range. -/
structure FaultsFirst (r : DutRequest) (isDir : String → Bool) : Prop where
  silent_iff : ((∃ e, (r.run isDir).outcome = .error e) ∧ (r.run isDir).reports = []) ↔
    r.count = 0 ∨ 64 < r.count ∨
      ∃ field ∈ r.givenFields, field.separators ≠ 0 ∧ field.separators + 1 ≠ r.count
  unlooked : r.Faulty → ∀ other, r.run other = r.run isDir
  noDuts : r.count = 0 →
    (r.run isDir).outcome = .error (.invalidParameter "DUT count must be at least 1")
  tooManyDuts : 64 < r.count →
    (r.run isDir).outcome = .error (.invalidParameter
      ("DUT count " ++ toString r.count ++ " exceeds the maximum of 64"))
  misfit : 1 ≤ r.count → r.count ≤ 64 → ∀ before field after,
    r.givenFields = before ++ field :: after → (∀ f ∈ before, ¬ f.Misfits r.count) →
    field.Misfits r.count →
      (r.run isDir).outcome =
          .error (.dutCountMismatch field.name r.count (1 + field.separators)) ∧
        1 + field.separators ≠ 1 ∧ 1 + field.separators ≠ r.count
  looked : ∀ e, (r.run isDir).outcome = .error e → ¬ r.Faulty →
    (∃ appDir first, e = .noValidBuildDirectory appDir first) ∧ (r.run isDir).reports ≠ []
  measured : r.measured.outcome = r.values
  lengths : ∀ n ∈ r.measured.lengths, n = r.count ∧ 1 ≤ n ∧ n ≤ 64

theorem faults_precede_looks (r : DutRequest) (isDir : String → Bool) :
    r.FaultsFirst isDir := by
  refine
    { silent_iff := ⟨?_, ?_⟩
      unlooked := ?_
      noDuts := ?_
      tooManyDuts := ?_
      misfit := ?_
      looked := fun e failed sound => failure_of_sound sound failed
      measured := r.measured_outcome
      lengths := fun n => measured_inRange }
  · rintro ⟨⟨e, failed⟩, silent⟩
    exact by_contra fun sound => (failure_of_sound sound failed).2 silent
  · intro faulty
    obtain ⟨e, fault⟩ := exists_fault_of_faulty faulty
    rw [run_of_fault fault]
    exact ⟨⟨e, rfl⟩, rfl⟩
  · intro faulty other
    obtain ⟨e, fault⟩ := exists_fault_of_faulty faulty
    rw [run_of_fault fault, run_of_fault fault]
  · intro zero
    rw [run_of_fault (by rw [fault?, if_pos zero])]
    rfl
  · intro above
    have nonzero : r.count ≠ 0 := by omega
    have limit : dutLimit < r.count := above
    rw [run_of_fault (by rw [fault?, if_neg nonzero, if_pos limit]), Failure.tooManyDuts_eq]
  · intro positive limited before field after split fitting misfits
    rw [run_of_fault (fault?_of_first_misfit positive limited split fitting misfits)]
    obtain ⟨several, differs⟩ := misfits
    exact ⟨rfl, by omega, by omega⟩

end DutRequest

end DutFixtures
